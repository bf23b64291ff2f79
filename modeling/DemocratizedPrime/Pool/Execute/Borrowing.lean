import DemocratizedPrime.Pool.Validation

/-!
# Borrowing

`borrow` and `repay` change a borrower's scaled debt and the total of all debts.
`addCollateral` and `removeCollateral` change a borrower's holdings and the
totals by asset.  A borrower who takes coins out must be healthy afterwards,
unless no debt is left to cover.
-/

namespace DemocratizedPrime

open Result

/-! ## Borrow -/

/-- Pay out a new loan, if the cash covers it and the loan is healthy with it. -/
def borrow (deps : Deps) (store : PoolStorage) (env : Env) (info : MessageInfo)
    (amount : Uint128) : ContractResult (PoolStorage × Response) := do
  ensure (amount.val ≠ 0) (illegalArgument "Borrow amount must be positive")
  let contract := store.contract
  ensure (contract.minBorrow.val ≤ amount.val)
    (illegalArgument s!"Borrow amount must be at least {contract.minBorrow} (min_borrow)")
  ensure (info.funds = []) noFundsAccepted
  validateBorrowerAttrs deps info.sender contract.borrowerRequiredAttrs
  let commitFunds := store.getBorrowerRequireCommit info.sender
  let (store, reserve) ← updateReserveIndexes store env contract.rateParams
  let totals ← reserveTotalsAndCashU128 reserve
  ensure (amount.val ≤ totals.cash.val) (illegalArgument
    s!"Insufficient liquidity: borrow amount {amount} exceeds available cash {totals.cash}")
  let borrowerCollateral := store.getBorrowerCollateral info.sender
  ensure (borrowerCollateral.isEmpty = false)
    (illegalArgument "Cannot borrow without collateral; add collateral first")
  let currentScaled := store.getScaledBorrow info.sender
  let debt ← debtAfterBorrow currentScaled amount reserve.borrowIndex
  let assetPrices ← getAssetPricesForBorrower deps env.blockTime contract borrowerCollateral
  let position ← getBorrowerHealth contract contract.supportedCollateralAssets assetPrices
    borrowerCollateral debt.debtAfter
  validateBorrowerIsHealthy position contract
  let store := store.setScaledBorrow info.sender debt.newScaled
  let totalScaledBorrow ← okOr (reserve.totalScaledBorrow.checkedAdd debt.scaledDelta)
    (illegalState "overflow: total_scaled_borrow + scaled_delta")
  let reserve := { reserve with totalScaledBorrow }
  let _ ← reserve.totalBorrow
  let store := store.setReserveStateV1 reserve
  let res := Response.new.addMessage
      (.bankSend info.sender [⟨contract.lendingDenom.name, amount⟩])
    |>.addText "action" "borrow"
    |>.addText "borrower" info.sender
    |>.addText "amount" (toString amount)
    |>.addText "scaled_amount" (toString debt.scaledDelta)
  let res ← addCommitMessage res commitFunds contract env.contractAddress "borrow" info.sender
    [⟨contract.lendingDenom.name, amount⟩]
  let res ← res.attachRates reserve contract.rateParams
  return (store, res)

theorem borrow_spec {deps : Deps} {s s' : PoolStorage} {env : Env} {info : MessageInfo}
    {amount : Uint128} {res : Response}
    (h : borrow deps s env info amount = .ok (s', res)) :
    ∃ (r : ReserveStateV1) (t : ReserveTotals) (debt : DebtAfterBorrow) (prices : PriceMap)
      (position : BorrowerHealth) (total : Uint128),
      info.funds = [] ∧
      AccruedTo s env.blockTime r ∧
      reserveTotalsAndCashU128 r = .ok t ∧
      amount.val ≤ t.cash.val ∧
      debtAfterBorrow (s.getScaledBorrow info.sender) amount r.borrowIndex = .ok debt ∧
      getAssetPricesForBorrower deps env.blockTime s.contract
        (s.getBorrowerCollateral info.sender) = .ok prices ∧
      getBorrowerHealth s.contract s.contract.supportedCollateralAssets prices
        (s.getBorrowerCollateral info.sender) debt.debtAfter = .ok position ∧
      position.health = .healthy ∧
      total.val = r.totalScaledBorrow.val + debt.scaledDelta.val ∧
      s' = (s.setScaledBorrow info.sender debt.newScaled).setReserveStateV1
        { r with totalScaledBorrow := total } ∧
      res.messages = [.bankSend info.sender [⟨s.contract.lendingDenom.name, amount⟩]] ++
        commitMessages (s.getBorrowerRequireCommit info.sender) s.contract env.contractAddress
          "borrow" info.sender [⟨s.contract.lendingDenom.name, amount⟩] := by
  simp only [borrow, bind_eq_ok, Prod.exists, updateReserveIndexes_eq_ok, ensure_eq_ok,
    exists_const, okOr_eq_ok, Uint.checkedAdd_eq_some, validateBorrowerIsHealthy_eq_ok,
    pure_eq_ok, Prod.mk.injEq] at h
  obtain ⟨-, -, hfunds, -, -, _, r, ⟨hr, rfl⟩, t, ht, hcash, -, debt, hdebt, prices, hprices,
    position, hposition, hhealthy, total, htotal, -, -, res₁, hres₁, res₂, hres₂, rfl, rfl⟩ := h
  refine ⟨r, t, debt, prices, position, total, hfunds, hr, ht, hcash, hdebt, hprices, hposition,
    hhealthy, htotal, rfl, ?_⟩
  rw [attachRates_messages hres₂, addCommitMessage_messages hres₁]
  rfl

/-! ## Repay -/

/-- The scaled debt that a payment cancels.  The full price closes the debt, so
that rounding twice leaves no dust behind. -/
def scaledRepayFor (applied payoff scaledDebt : Uint128) (borrowIndex : Decimal256) :
    ContractResult Uint128 :=
  if payoff.val ≤ applied.val then return scaledDebt
  else underlyingToScaledBorrow applied borrowIndex

/-- The excess of a payment goes back, and is committed when the borrower's funds
have to be. -/
def refundExcess (res : Response) (env : Env) (info : MessageInfo) (contract : ContractStateV1)
    (commitFunds : Bool) (amount repayUnderlying : Uint128) : ContractResult Response :=
  if repayUnderlying.val < amount.val then do
    let excess ← okOr (amount.checkedSub repayUnderlying) (.overflowError .sub)
    let res := res.addMessage (.bankSend info.sender [⟨contract.lendingDenom.name, excess⟩])
    addCommitMessage res commitFunds contract env.contractAddress "repay" info.sender
      [⟨contract.lendingDenom.name, excess⟩]
  else return res

/-- Take coins for the debt of the sender, and give back what is too much. -/
def repay (store : PoolStorage) (env : Env) (info : MessageInfo) :
    ContractResult (PoolStorage × Response) := do
  let contract := store.contract
  let amount ← validateSingleCoinDenom info contract.lendingDenom 1
  let (store, reserve) ← updateReserveIndexes store env contract.rateParams
  let commitFunds := store.getBorrowerRequireCommit info.sender
  let scaledDebt := store.getScaledBorrow info.sender
  ensure (0 < scaledDebt.val) (illegalArgument "No borrow to repay")
  let debtUnderlying ← scaledToUnderlyingBorrowCeil scaledDebt reserve.borrowIndex
  let repayUnderlying := amount.min debtUnderlying
  let scaledRepay ← scaledRepayFor repayUnderlying debtUnderlying scaledDebt reserve.borrowIndex
  ensure (0 < scaledRepay.val) (illegalArgument "Repay amount too small to reduce debt")
  let newScaled ← okOr (scaledDebt.checkedSub scaledRepay)
    (illegalState "underflow: borrower scaled debt (scaled_debt - scaled_repay)")
  let store := store.setScaledBorrow info.sender newScaled
  let totalScaledBorrow ← okOr (reserve.totalScaledBorrow.checkedSub scaledRepay)
    (illegalState "underflow: total_scaled_borrow - scaled_repay")
  let reserve := { reserve with totalScaledBorrow }
  let store := store.setReserveStateV1 reserve
  let res := Response.new.addText "action" "repay"
    |>.addText "borrower" info.sender
    |>.addText "amount" (toString repayUnderlying)
    |>.addText "scaled_amount" (toString scaledRepay)
  let res ← refundExcess res env info contract commitFunds amount repayUnderlying
  let res ← res.attachRates reserve contract.rateParams
  return (store, res)

/-- A payment cancels all of the debt at the full price, and otherwise the units
that it covers. -/
theorem scaledRepayFor_spec {applied payoff debt c : Uint128} {bi : Decimal256}
    (h : scaledRepayFor applied payoff debt bi = .ok c) :
    (payoff.val ≤ applied.val ∧ c = debt) ∨
      (applied.val < payoff.val ∧ bi.atomics ≠ 0 ∧
        c.val = applied.val * decimalFractional / bi.atomics) := by
  unfold scaledRepayFor at h
  split at h
  · rename_i hle
    exact Or.inl ⟨hle, (pure_eq_ok.mp h).symm⟩
  · rename_i hlt
    obtain ⟨hbi, hc⟩ := underlyingToScaled_eq h
    exact Or.inr ⟨by omega, hbi, hc⟩

/-- The messages of `refundExcess`. -/
def excessMessages (env : Env) (info : MessageInfo) (contract : ContractStateV1)
    (commitFunds : Bool) (amount used : Uint128) : List CosmosMsg :=
  if used.val < amount.val then
    .bankSend info.sender [⟨contract.lendingDenom.name, amount.saturatingSub used⟩] ::
      commitMessages commitFunds contract env.contractAddress "repay" info.sender
        [⟨contract.lendingDenom.name, amount.saturatingSub used⟩]
  else []

theorem refundExcess_messages {res res' : Response} {env : Env} {info : MessageInfo}
    {c : ContractStateV1} {cf : Bool} {amount used : Uint128}
    (h : refundExcess res env info c cf amount used = .ok res') :
    res'.messages = res.messages ++ excessMessages env info c cf amount used := by
  unfold refundExcess at h
  unfold excessMessages
  split at h
  · rename_i hlt
    rw [if_pos hlt]
    simp only [bind_eq_ok, okOr_eq_ok, Uint.checkedSub_eq_some] at h
    obtain ⟨excess, hexcess, h⟩ := h
    have hval : excess = amount.saturatingSub used := by
      apply Uint.ext
      rw [Uint.saturatingSub_val]
      omega
    rw [addCommitMessage_messages h, hval]
    simp
  · rename_i hle
    rw [if_neg hle, List.append_nil, pure_eq_ok.mp h]

theorem repay_spec {s s' : PoolStorage} {env : Env} {info : MessageInfo} {res : Response}
    (h : repay s env info = .ok (s', res)) :
    ∃ (amount payoff cancelled left total : Uint128) (r : ReserveStateV1),
      info.funds = [⟨s.contract.lendingDenom.name, amount⟩] ∧
      AccruedTo s env.blockTime r ∧
      payoff.val = ((s.getScaledBorrow info.sender).val * r.borrowIndex.atomics +
        (decimalFractional - 1)) / decimalFractional ∧
      scaledRepayFor (amount.min payoff) payoff (s.getScaledBorrow info.sender) r.borrowIndex =
        .ok cancelled ∧
      0 < cancelled.val ∧
      left.val + cancelled.val = (s.getScaledBorrow info.sender).val ∧
      total.val + cancelled.val = r.totalScaledBorrow.val ∧
      s' = (s.setScaledBorrow info.sender left).setReserveStateV1
        { r with totalScaledBorrow := total } ∧
      res.messages = excessMessages env info s.contract
        (s.getBorrowerRequireCommit info.sender) amount (amount.min payoff) := by
  simp only [repay, bind_eq_ok, Prod.exists, updateReserveIndexes_eq_ok,
    validateSingleCoinDenom_eq_ok, ensure_eq_ok, exists_const, okOr_eq_ok,
    Uint.checkedSub_eq_some, pure_eq_ok, Prod.mk.injEq] at h
  obtain ⟨amount, ⟨hfunds, -⟩, _, r, ⟨hr, rfl⟩, -, payoff, hpayoff, cancelled, hcancelled, hpos,
    left, hleft, total, htotal, res₁, hres₁, res₂, hres₂, rfl, rfl⟩ := h
  refine ⟨amount, payoff, cancelled, left, total, r, hfunds, hr,
    scaledToUnderlyingBorrowCeil_eq hpayoff, hcancelled, hpos, hleft, htotal, rfl, ?_⟩
  rw [attachRates_messages hres₂, refundExcess_messages hres₁]
  rfl

/-! ## Add collateral -/

/-- The checks of one attached coin. -/
def checkCollateralCoin (contract : ContractStateV1) (coin : Coin) : ContractResult Unit := do
  ensure (coin.amount.val ≠ 0) (illegalArgument "Collateral amount must be positive")
  ensure (contract.supports coin.denom = true)
    (illegalArgument s!"Unsupported collateral asset: {coin.denom}")

/-- One coin is added to a holding. -/
def addCollateralCoin (current : Amounts) (coin : Coin) : ContractResult Amounts := do
  let newAmount ← okOr ((amountOf current coin.denom).checkedAdd coin.amount)
    (illegalState "collateral overflow")
  return current.insert coin.denom newAmount

/-- One coin is added to the totals. -/
def addTotalCollateralCoin (store : PoolStorage) (coin : Coin) : ContractResult PoolStorage :=
  store.addTotalCollateral coin.denom coin.amount

/-- The coins of a message as a map: a repeated denomination keeps its last
amount. -/
def coinAmounts (coins : List Coin) : Amounts :=
  coins.foldl (fun amounts coin => amounts.insert coin.denom coin.amount) ∅

/-- Take coins as collateral of the sender. -/
def addCollateral (deps : Deps) (store : PoolStorage) (env : Env) (info : MessageInfo) :
    ContractResult (PoolStorage × Response) := do
  let contract := store.contract
  validateBorrowerAttrs deps info.sender contract.borrowerRequiredAttrs
  let newCollateral := info.funds
  ensure (newCollateral ≠ []) (illegalArgument "At least one collateral coin must be sent")
  newCollateral.forM (checkCollateralCoin contract)
  let current := store.getBorrowerCollateral info.sender
  let newDenoms := (newCollateral.map (·.denom)).filter fun d => !current.contains d
  let _ ← requireFreshAssetPrices deps env.blockTime contract.priceOracleAddress newDenoms
  validateBorrowerCollateralTypeLimit newCollateral current contract.maxBorrowerCollateralTypes
  let current ← newCollateral.foldlM addCollateralCoin current
  let store := store.setBorrowerCollateral info.sender current
  let store ← newCollateral.foldlM addTotalCollateralCoin store
  let res := Response.new.addText "action" "add_collateral"
    |>.addText "borrower" info.sender
    |>.addAttribute "collateral_json" (.amounts (coinAmounts newCollateral).toList)
  return (store, res)

/-- The totals after a loop that adds coins to them. -/
theorem addTotalCollateralCoin_foldlM {l : List Coin} {s s' : PoolStorage}
    (h : l.foldlM addTotalCollateralCoin s = .ok s') :
    s' = { s with totalCollateralByAsset := s'.totalCollateralByAsset } ∧
      Added s.totalCollateralByAsset l s'.totalCollateralByAsset := by
  have hloop := foldlM_ok_induct
    (fun done b => b = { s with totalCollateralByAsset := b.totalCollateralByAsset } ∧
      Added s.totalCollateralByAsset done b.totalCollateralByAsset)
    (fun done c b b' hb hc => by
      obtain ⟨hb, hadded⟩ := hb
      simp only [addTotalCollateralCoin, PoolStorage.addTotalCollateral, bind_eq_ok, okOr_eq_ok,
        Uint.checkedAdd_eq_some, pure_eq_ok] at hc
      obtain ⟨total, htotal, rfl⟩ := hc
      refine ⟨?_, hadded.append (Added.put htotal)⟩
      rw [hb]
      rfl) ⟨rfl, Added.nil _⟩ h
  exact hloop

theorem addCollateralCoin_added {m m' : Amounts} {c : Coin}
    (h : addCollateralCoin m c = .ok m') : Added m [c] m' := by
  simp only [addCollateralCoin, bind_eq_ok, okOr_eq_ok, Uint.checkedAdd_eq_some, pure_eq_ok] at h
  obtain ⟨total, htotal, rfl⟩ := h
  exact Added.insert htotal

theorem addCollateral_spec {deps : Deps} {s s' : PoolStorage} {env : Env} {info : MessageInfo}
    {res : Response} (h : addCollateral deps s env info = .ok (s', res)) :
    ∃ (held totals : Amounts),
      (∀ c ∈ info.funds, c.amount.val ≠ 0 ∧ s.contract.supports c.denom = true) ∧
      Added (s.getBorrowerCollateral info.sender) info.funds held ∧
      Added s.totalCollateralByAsset info.funds totals ∧
      s' = { s.setBorrowerCollateral info.sender held with totalCollateralByAsset := totals } ∧
      res.messages = [] := by
  simp only [addCollateral, bind_eq_ok, ensure_eq_ok, exists_const, pure_eq_ok,
    Prod.mk.injEq, forM_eq_ok, checkCollateralCoin] at h
  obtain ⟨-, -, -, hcoins, -, -, -, -, held, hheld, store, hstore, rfl, rfl⟩ := h
  obtain ⟨hs, htotals⟩ := addTotalCollateralCoin_foldlM hstore
  exact ⟨held, _, hcoins, Added.foldlM (fun _ _ _ => addCollateralCoin_added) hheld, htotals, hs,
    rfl⟩

/-! ## Remove collateral -/

/-- The checks and the dry run of one amount to remove. -/
def removeCollateralEntry (contract : ContractStateV1) (newAmounts : Amounts)
    (entry : String × Uint128) : ContractResult Amounts := do
  ensure (entry.2.val ≠ 0) (illegalArgument s!"Remove amount for {entry.1} must be positive")
  ensure (contract.supports entry.1 = true)
    (illegalArgument s!"Unsupported collateral asset: {entry.1}")
  let cur := amountOf newAmounts entry.1
  ensure (entry.2.val ≤ cur.val) (illegalArgument
    s!"Insufficient collateral for {entry.1}: have {cur}, requested {entry.2}")
  takeAmount newAmounts entry.1 entry.2
    (illegalState "underflow: collateral remaining (cur - remove) for asset")

/-- One amount is taken out of the totals. -/
def subtractTotalCollateralEntry (store : PoolStorage) (entry : String × Uint128) :
    ContractResult PoolStorage :=
  store.subtractTotalCollateral entry.1 entry.2

/-- The margin check of a removal.  A debt that rounds to nothing needs none. -/
def checkHealthAfterRemoval (deps : Deps) (env : Env) (contract : ContractStateV1)
    (newCollateral : Amounts) (debtUnderlying : Uint128) : ContractResult Unit :=
  if 0 < debtUnderlying.val then do
    let assetPrices ← getAssetPricesForBorrower deps env.blockTime contract newCollateral
    let position ← getBorrowerHealth contract contract.supportedCollateralAssets assetPrices
      newCollateral debtUnderlying
    validateBorrowerIsHealthy position contract
  else return ()

/-- Give collateral back, if the loan stays healthy without it. -/
def removeCollateral (deps : Deps) (store : PoolStorage) (env : Env) (info : MessageInfo)
    (toRemove : Amounts) : ContractResult (PoolStorage × Response) := do
  let contract := store.contract
  ensure (info.funds = []) noFundsAccepted
  validateBorrowerAttrs deps info.sender contract.borrowerRequiredAttrs
  ensure (toRemove.isEmpty = false)
    (illegalArgument "At least one collateral amount to remove must be specified")
  let current := store.getBorrowerCollateral info.sender
  let commitFunds := store.getBorrowerRequireCommit info.sender
  let newCollateral ← toRemove.toList.foldlM (removeCollateralEntry contract) current
  let sendCoins := toRemove.toList.map entryCoin
  let (store, reserve) ← updateReserveIndexes store env contract.rateParams
  let scaled := store.getScaledBorrow info.sender
  let debtUnderlying ← scaledToUnderlyingBorrow scaled reserve.borrowIndex
  checkHealthAfterRemoval deps env contract newCollateral debtUnderlying
  let store := store.setBorrowerCollateral info.sender newCollateral
  let store ← toRemove.toList.foldlM subtractTotalCollateralEntry store
  let res := Response.new.addMessage (.bankSend info.sender sendCoins)
    |>.addText "action" "remove_collateral"
    |>.addText "borrower" info.sender
    |>.addAttribute "collateral_json" (.amounts toRemove.toList)
  let res ← addCommitMessage res commitFunds contract env.contractAddress "remove_collateral"
    info.sender sendCoins
  let res ← res.attachRates reserve contract.rateParams
  return (store, res)

theorem removeCollateralEntry_spec {c : ContractStateV1} {m m' : Amounts}
    {e : String × Uint128} (h : removeCollateralEntry c m e = .ok m') :
    (e.2.val ≠ 0 ∧ c.supports e.1 = true) ∧ Taken m [entryCoin e] m' := by
  simp only [removeCollateralEntry, bind_eq_ok, ensure_eq_ok, exists_const] at h
  exact ⟨⟨h.1, h.2.1⟩, Taken.takeAmount h.2.2.2⟩

/-- The totals after a loop that takes entries out of them. -/
theorem subtractTotalCollateralEntry_foldlM {l : List (String × Uint128)} {s s' : PoolStorage}
    (h : l.foldlM subtractTotalCollateralEntry s = .ok s') :
    s' = { s with totalCollateralByAsset := s'.totalCollateralByAsset } ∧
      Taken s.totalCollateralByAsset (l.map entryCoin) s'.totalCollateralByAsset := by
  have hloop := foldlM_ok_induct
    (fun done b => b = { s with totalCollateralByAsset := b.totalCollateralByAsset } ∧
      Taken s.totalCollateralByAsset (done.map entryCoin) b.totalCollateralByAsset)
    (fun done e b b' hb he => by
      obtain ⟨hb, htaken⟩ := hb
      simp only [subtractTotalCollateralEntry, PoolStorage.subtractTotalCollateral, bind_eq_ok,
        okOr_eq_ok, Uint.checkedSub_eq_some, pure_eq_ok] at he
      obtain ⟨total, htotal, rfl⟩ := he
      rw [List.map_append]
      refine ⟨?_, htaken.append (Taken.put (c := entryCoin e) htotal)⟩
      rw [hb]
      rfl) ⟨rfl, Taken.nil _⟩ h
  exact hloop

theorem removeCollateral_spec {deps : Deps} {s s' : PoolStorage} {env : Env}
    {info : MessageInfo} {toRemove : Amounts} {res : Response}
    (h : removeCollateral deps s env info toRemove = .ok (s', res)) :
    ∃ (r : ReserveStateV1) (debt : Uint128) (held totals : Amounts),
      info.funds = [] ∧
      (∀ e ∈ toRemove.toList, e.2.val ≠ 0 ∧ s.contract.supports e.1 = true) ∧
      Taken (s.getBorrowerCollateral info.sender) (toRemove.toList.map entryCoin) held ∧
      AccruedTo s env.blockTime r ∧
      debt.val = (s.getScaledBorrow info.sender).val * r.borrowIndex.atomics /
        decimalFractional ∧
      checkHealthAfterRemoval deps env s.contract held debt = .ok () ∧
      Taken s.totalCollateralByAsset (toRemove.toList.map entryCoin) totals ∧
      s' = { (s.setReserveStateV1 r).setBorrowerCollateral info.sender held with
        totalCollateralByAsset := totals } ∧
      res.messages = [.bankSend info.sender (toRemove.toList.map entryCoin)] ++
        commitMessages (s.getBorrowerRequireCommit info.sender) s.contract env.contractAddress
          "remove_collateral" info.sender (toRemove.toList.map entryCoin) := by
  simp only [removeCollateral, bind_eq_ok, Prod.exists, updateReserveIndexes_eq_ok, ensure_eq_ok,
    exists_const, pure_eq_ok, Prod.mk.injEq] at h
  obtain ⟨hfunds, -, -, -, held, hheld, _, r, ⟨hr, rfl⟩, debt, hdebt, _, hcheck, store, hstore,
    res₁, hres₁, res₂, hres₂, rfl, rfl⟩ := h
  obtain ⟨hs, htotals⟩ := subtractTotalCollateralEntry_foldlM hstore
  refine ⟨r, debt, held, _, hfunds, ?_, ?_, hr, scaledToUnderlying_eq hdebt, hcheck, htotals, hs,
    ?_⟩
  · have hloop := foldlM_ok_induct
      (fun done _ => ∀ e ∈ done, e.2.val ≠ 0 ∧ s.contract.supports e.1 = true)
      (fun done e b b' hb he e' he' => by
        rcases List.mem_append.mp he' with hdone | hnew
        · exact hb e' hdone
        · rw [List.mem_singleton] at hnew
          exact hnew ▸ (removeCollateralEntry_spec he).1) (by simp) hheld
    exact hloop
  · exact Taken.foldlM (fun _ _ _ he => (removeCollateralEntry_spec he).2) hheld
  · rw [attachRates_messages hres₂, addCommitMessage_messages hres₁]
    rfl

end DemocratizedPrime
