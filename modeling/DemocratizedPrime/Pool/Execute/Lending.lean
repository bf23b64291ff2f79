import DemocratizedPrime.Pool.Validation

/-!
# Lending

`lend` takes lending coins and mints repo tokens.  The two withdrawals burn repo
tokens and send lending coins: `executeWithdraw` is the owner's, on behalf of a
lender, and `executeWithdrawCw20` and `executeTransferCw20` are what `receive`
runs for a holder who sent repo tokens to the pool.

Each message has one specification lemma, `…_spec`.  It says what a successful
call checked, how it changed the storage, and which messages it returned.
-/

namespace DemocratizedPrime

open Result

/-! ## Lend -/

/-- Take coins of a lender, and mint repo tokens for their scaled units. -/
def lend (deps : Deps) (store : PoolStorage) (env : Env) (info : MessageInfo) :
    ContractResult (PoolStorage × Response) := do
  let contract := store.contract
  let repoToken ← contract.repoTokenAddr
  validateLenderAttrs deps info.sender contract.lenderRequiredAttrs
  let amount ← validateSingleCoinDenom info contract.lendingDenom contract.minLend
  let (store, reserve) ← updateReserveIndexes store env contract.rateParams
  let scaledDelta ← underlyingToScaledLiquidity amount reserve.liquidityIndex
  ensure (0 < scaledDelta.val) (illegalArgument
    "Lend amount rounds to zero scaled liquidity at the current index; use a larger amount")
  let totalScaledLiquidity ← okOr (reserve.totalScaledLiquidity.checkedAdd scaledDelta)
    (illegalState "overflow: total_scaled_liquidity + scaled_delta")
  let reserve := { reserve with totalScaledLiquidity }
  let _ ← reserve.totalLiquidity
  let store := store.setReserveStateV1 reserve
  let res := Response.new.addMessage (.wasmExecute repoToken (.mint info.sender scaledDelta))
    |>.addText "action" "lend"
    |>.addText "lender" info.sender
    |>.addText "amount" (toString amount)
    |>.addText "scaled_amount" (toString scaledDelta)
  let res ← res.attachRates reserve contract.rateParams
  return (store, res)

theorem lend_spec {deps : Deps} {s s' : PoolStorage} {env : Env} {info : MessageInfo}
    {res : Response} (h : lend deps s env info = .ok (s', res)) :
    ∃ (token : Addr) (amount minted total : Uint128) (r : ReserveStateV1),
      s.contract.repoTokenCw20Address = some token ∧
      AccruedTo s env.blockTime r ∧
      info.funds = [⟨s.contract.lendingDenom.name, amount⟩] ∧
      r.liquidityIndex.atomics ≠ 0 ∧
      minted.val = amount.val * decimalFractional / r.liquidityIndex.atomics ∧
      0 < minted.val ∧
      total.val = r.totalScaledLiquidity.val + minted.val ∧
      s' = s.setReserveStateV1 { r with totalScaledLiquidity := total } ∧
      res.messages = [.wasmExecute token (.mint info.sender minted)] := by
  simp only [lend, bind_eq_ok, Prod.exists, updateReserveIndexes_eq_ok,
    validateSingleCoinDenom_eq_ok, ensure_eq_ok, exists_const, ContractStateV1.repoTokenAddr,
    okOr_eq_ok, Uint.checkedAdd_eq_some, pure_eq_ok, Prod.mk.injEq] at h
  obtain ⟨token, htoken, -, -, amount, ⟨hfunds, -⟩, _, r, ⟨hr, rfl⟩, minted, hminted, hpos,
    total, htotal, -, -, res', hres, rfl, rfl⟩ := h
  obtain ⟨hli, hminted⟩ := underlyingToScaled_eq hminted
  exact ⟨token, amount, minted, total, r, htoken, hr, hfunds, hli, hminted, hpos, htotal, rfl,
    by simpa using attachRates_messages hres⟩

/-! ## Withdraw -/

/-- Both withdrawals take what they burn out of the scaled total. -/
def deductScaledLiquidityAndSave (store : PoolStorage) (reserve : ReserveStateV1)
    (scaledToBurn : Uint128) : ContractResult (PoolStorage × ReserveStateV1) := do
  let totalScaledLiquidity ← okOr (reserve.totalScaledLiquidity.checkedSub scaledToBurn)
    (illegalState "underflow: total_scaled_liquidity - scaled_to_burn")
  let reserve := { reserve with totalScaledLiquidity }
  return (store.setReserveStateV1 reserve, reserve)

/-- A payment in the lent denom. -/
def bankSendUnderlying (denom : String) (toAddress : Addr) (amount : Uint128) : CosmosMsg :=
  .bankSend toAddress [⟨denom, amount⟩]

/-- What a withdrawal burns and pays. -/
structure WithdrawAmounts where
  scaledToBurn : Uint128
  underlyingToSend : Uint128

/-- The owner's choice of how much to withdraw for a lender: the amount, or all
of the balance. -/
def ownerWithdrawAmounts (amount : Option Uint128) (scaledBalance underlyingMax cash : Uint128)
    (liquidityIndex : Decimal256) : ContractResult WithdrawAmounts :=
  match amount with
  | some amt => do
    ensure (amt.val ≠ 0) (illegalArgument "Amount must be greater than zero")
    ensure (amt.val ≤ underlyingMax.val) (illegalArgument "Amount exceeds lender's supply")
    ensure (amt.val ≤ cash.val)
      (illegalArgument "Insufficient liquidity: amount would exceed available cash")
    let scaledToBurn ← underlyingToScaledLiquidity amt liquidityIndex
    let underlyingToSend ← scaledToUnderlyingLiquidity scaledToBurn liquidityIndex
    return { scaledToBurn, underlyingToSend }
  | none => do
    ensure (underlyingMax.val ≤ cash.val)
      (illegalArgument "Insufficient liquidity: lender supply would exceed available cash")
    let underlyingToSend ← scaledToUnderlyingLiquidity scaledBalance liquidityIndex
    return { scaledToBurn := scaledBalance, underlyingToSend }

/-- The owner pays a lender out, and burns the lender's tokens. -/
def executeWithdraw (deps : Deps) (store : PoolStorage) (env : Env) (info : MessageInfo)
    (lender : String) (amount : Option Uint128) (commitFunds : Option Bool) :
    ContractResult (PoolStorage × Response) := do
  let contract := store.contract
  let repoToken ← contract.repoTokenAddr
  store.ownership.assertOwner info.sender
    "Only the contract owner may withdraw on behalf of a lender"
  ensure (info.funds = []) noFundsAccepted
  let lenderAddr ← deps.addrValidate (trim lender)
  let (store, reserve) ← updateReserveIndexes store env contract.rateParams
  let totals ← reserveTotalsAndCashU128 reserve
  let scaledBalance ← fromStd (deps.scaledBalance repoToken lenderAddr)
  ensure (0 < scaledBalance.val) (illegalArgument "Lender has no repo token balance")
  let underlyingMax ← scaledToUnderlyingLiquidity scaledBalance reserve.liquidityIndex
  let w ← ownerWithdrawAmounts amount scaledBalance underlyingMax totals.cash
    reserve.liquidityIndex
  let (store, reserve) ← deductScaledLiquidityAndSave store reserve w.scaledToBurn
  let res := Response.new.addMessage (.wasmExecute repoToken (.burnFrom lenderAddr w.scaledToBurn))
    |>.addMessage (bankSendUnderlying contract.lendingDenom.name lenderAddr w.underlyingToSend)
    |>.addText "action" "withdraw"
    |>.addText "lender" lenderAddr
    |>.addText "amount" (toString w.underlyingToSend)
    |>.addText "scaled_amount" (toString w.scaledToBurn)
  let res ← addCommitMessage res (commitFunds == some true) contract env.contractAddress
    "withdraw" lenderAddr [⟨contract.lendingDenom.name, w.underlyingToSend⟩]
  let res ← res.attachRates reserve contract.rateParams
  return (store, res)

theorem deductScaledLiquidityAndSave_eq_ok {s s' : PoolStorage} {r r' : ReserveStateV1}
    {burned : Uint128} (h : deductScaledLiquidityAndSave s r burned = .ok (s', r')) :
    r' = { r with totalScaledLiquidity := r'.totalScaledLiquidity } ∧
      r'.totalScaledLiquidity.val + burned.val = r.totalScaledLiquidity.val ∧
      s' = s.setReserveStateV1 r' := by
  simp only [deductScaledLiquidityAndSave, bind_eq_ok, okOr_eq_ok, Uint.checkedSub_eq_some,
    pure_eq_ok, Prod.mk.injEq] at h
  obtain ⟨total, htotal, rfl, rfl⟩ := h
  exact ⟨rfl, htotal, rfl⟩

/-- The owner pays out the value of what is burned: all of the balance, or the
units of the amount. -/
theorem ownerWithdrawAmounts_spec {amount : Option Uint128} {bal max cash : Uint128}
    {li : Decimal256} {w : WithdrawAmounts}
    (h : ownerWithdrawAmounts amount bal max cash li = .ok w) :
    w.underlyingToSend.val = w.scaledToBurn.val * li.atomics / decimalFractional ∧
      ((amount = none ∧ w.scaledToBurn = bal ∧ max.val ≤ cash.val) ∨
        ∃ amt, amount = some amt ∧ amt.val ≤ max.val ∧ amt.val ≤ cash.val ∧
          w.scaledToBurn.val = amt.val * decimalFractional / li.atomics) := by
  unfold ownerWithdrawAmounts at h
  split at h
  · rename_i amt
    simp only [bind_eq_ok, ensure_eq_ok, exists_const, pure_eq_ok] at h
    obtain ⟨-, hmax, hcash, scaled, hscaled, paid, hpaid, rfl⟩ := h
    exact ⟨scaledToUnderlying_eq hpaid,
      Or.inr ⟨amt, rfl, hmax, hcash, (underlyingToScaled_eq hscaled).2⟩⟩
  · simp only [bind_eq_ok, ensure_eq_ok, exists_const, pure_eq_ok] at h
    obtain ⟨hcash, paid, hpaid, rfl⟩ := h
    exact ⟨scaledToUnderlying_eq hpaid, Or.inl ⟨rfl, rfl, hcash⟩⟩

theorem executeWithdraw_spec {deps : Deps} {s s' : PoolStorage} {env : Env}
    {info : MessageInfo} {lender : String} {amount : Option Uint128} {cf : Option Bool}
    {res : Response}
    (h : executeWithdraw deps s env info lender amount cf = .ok (s', res)) :
    ∃ (token : Addr) (r r' : ReserveStateV1) (bal max : Uint128) (t : ReserveTotals)
      (w : WithdrawAmounts),
      s.contract.repoTokenCw20Address = some token ∧
      s.ownership.owner = some info.sender ∧
      info.funds = [] ∧
      AccruedTo s env.blockTime r ∧
      reserveTotalsAndCashU128 r = .ok t ∧
      deps.scaledBalance token (trim lender) = .ok bal ∧
      0 < bal.val ∧
      max.val = bal.val * r.liquidityIndex.atomics / decimalFractional ∧
      ownerWithdrawAmounts amount bal max t.cash r.liquidityIndex = .ok w ∧
      r' = { r with totalScaledLiquidity := r'.totalScaledLiquidity } ∧
      r'.totalScaledLiquidity.val + w.scaledToBurn.val = r.totalScaledLiquidity.val ∧
      s' = s.setReserveStateV1 r' ∧
      res.messages = [.wasmExecute token (.burnFrom (trim lender) w.scaledToBurn),
          .bankSend (trim lender) [⟨s.contract.lendingDenom.name, w.underlyingToSend⟩]] ++
        commitMessages (cf == some true) s.contract env.contractAddress "withdraw" (trim lender)
          [⟨s.contract.lendingDenom.name, w.underlyingToSend⟩] := by
  simp only [executeWithdraw, bind_eq_ok, Prod.exists, updateReserveIndexes_eq_ok, ensure_eq_ok,
    exists_const, ContractStateV1.repoTokenAddr, Ownership.assertOwner, okOr_eq_ok,
    addrValidate_eq_ok, fromStd_eq_ok, pure_eq_ok, Prod.mk.injEq] at h
  obtain ⟨token, htoken, howner, hfunds, _, ⟨-, rfl⟩, _, r, ⟨hr, rfl⟩, t, ht, bal, hbal, hpos,
    max, hmax, w, hw, _, r', hdeduct, res₁, hres₁, res₂, hres₂, rfl, rfl⟩ := h
  obtain ⟨hr', htotal, rfl⟩ := deductScaledLiquidityAndSave_eq_ok hdeduct
  refine ⟨token, r, r', bal, max, t, w, htoken, howner, hfunds, hr, ht, hbal, hpos,
    scaledToUnderlying_eq hmax, hw, hr', htotal, rfl, ?_⟩
  rw [attachRates_messages hres₂, addCommitMessage_messages hres₁]
  rfl

/-- What a holder burns for the repo tokens sent: all of them when `exact`, and
the scaled units of the requested amount otherwise. -/
def holderWithdrawAmounts (receivedScaled : Uint128) (amountUnderlying : Option Uint128)
    (exact : Bool) (cash : Uint128) (liquidityIndex : Decimal256) :
    ContractResult WithdrawAmounts :=
  if exact then do
    let underlying ← scaledToUnderlyingLiquidity receivedScaled liquidityIndex
    ensure (underlying.val ≤ cash.val)
      (illegalArgument "Insufficient liquidity: scaled amount would exceed available cash")
    return { scaledToBurn := receivedScaled, underlyingToSend := underlying }
  else do
    let amount ← okOr amountUnderlying (illegalArgument "Withdraw amount required")
    ensure (amount.val ≠ 0) (illegalArgument "Withdraw amount must be greater than zero")
    ensure (amount.val ≤ cash.val)
      (illegalArgument "Insufficient liquidity: amount exceeds available cash")
    let scaled ← underlyingToScaledLiquidity amount liquidityIndex
    ensure (scaled.val ≤ receivedScaled.val) (illegalArgument
      (s!"Insufficient repo token sent: need {scaled} (scaled) for {amount} underlying, " ++
        s!"got {receivedScaled}"))
    -- The value of the burned units is sent, not the requested amount: the
    -- truncated units are worth at most that much.
    let underlyingToSend ← scaledToUnderlyingLiquidity scaled liquidityIndex
    return { scaledToBurn := scaled, underlyingToSend }

/-- The repo tokens that were sent but not used go back to the sender. -/
def addRefund (res : Response) (exact : Bool) (repoToken : Addr) (sender : String)
    (receivedScaled used : Uint128) : ContractResult Response :=
  if !exact && decide (used.val < receivedScaled.val) then do
    let refund ← okOr (receivedScaled.checkedSub used) (.overflowError .sub)
    return res.addMessage (.wasmExecute repoToken (.transfer sender refund))
  else return res

/-- The refund that `addRefund` adds, if any. -/
def refundMessages (exact : Bool) (repoToken : Addr) (sender : String)
    (receivedScaled used : Uint128) : List CosmosMsg :=
  if exact = false ∧ used.val < receivedScaled.val then
    [.wasmExecute repoToken (.transfer sender (receivedScaled.saturatingSub used))]
  else []

theorem addRefund_messages {res res' : Response} {exact : Bool} {token : Addr} {sender : String}
    {received used : Uint128} (h : addRefund res exact token sender received used = .ok res') :
    res'.messages = res.messages ++ refundMessages exact token sender received used := by
  unfold addRefund at h
  unfold refundMessages
  by_cases hc : exact = false ∧ used.val < received.val
  · rw [if_pos hc]
    rw [if_pos (by simpa using hc)] at h
    simp only [bind_eq_ok, okOr_eq_ok, pure_eq_ok, Uint.checkedSub_eq_some] at h
    obtain ⟨refund, hrefund, rfl⟩ := h
    have hval : refund = received.saturatingSub used := by
      apply Uint.ext
      rw [Uint.saturatingSub_val]
      omega
    rw [hval]
    rfl
  · rw [if_neg hc, List.append_nil]
    rw [if_neg (by simpa using hc), pure_eq_ok] at h
    rw [h]

/-- A holder is paid the value of what is burned: everything that was sent, or
the units of the amount. -/
theorem holderWithdrawAmounts_spec {received cash : Uint128} {amount : Option Uint128}
    {exact : Bool} {li : Decimal256} {w : WithdrawAmounts}
    (h : holderWithdrawAmounts received amount exact cash li = .ok w) :
    w.underlyingToSend.val = w.scaledToBurn.val * li.atomics / decimalFractional ∧
      w.scaledToBurn.val ≤ received.val ∧
      ((exact = true ∧ w.scaledToBurn = received ∧ w.underlyingToSend.val ≤ cash.val) ∨
        ∃ amt, exact = false ∧ amount = some amt ∧ amt.val ≤ cash.val ∧
          w.scaledToBurn.val = amt.val * decimalFractional / li.atomics) := by
  unfold holderWithdrawAmounts at h
  split at h
  · rename_i hexact
    simp only [bind_eq_ok, ensure_eq_ok, exists_const, pure_eq_ok] at h
    obtain ⟨paid, hpaid, hcash, rfl⟩ := h
    exact ⟨scaledToUnderlying_eq hpaid, le_refl _, Or.inl ⟨hexact, rfl, hcash⟩⟩
  · rename_i hexact
    simp only [bind_eq_ok, ensure_eq_ok, exists_const, pure_eq_ok, okOr_eq_ok] at h
    obtain ⟨amt, hamt, -, hcash, scaled, hscaled, hle, paid, hpaid, rfl⟩ := h
    exact ⟨scaledToUnderlying_eq hpaid, hle, Or.inr ⟨amt, by simpa using hexact, hamt, hcash,
      (underlyingToScaled_eq hscaled).2⟩⟩

/-- A withdrawal of all that was sent burns all of it. -/
theorem holderWithdrawAmounts_exact {received cash : Uint128} {amount : Option Uint128}
    {exact : Bool} {li : Decimal256} {w : WithdrawAmounts}
    (h : holderWithdrawAmounts received amount exact cash li = .ok w) (hexact : exact = true) :
    w.scaledToBurn = received := by
  obtain ⟨-, -, ⟨-, hall, -⟩ | ⟨amt, hpart, -⟩⟩ := holderWithdrawAmounts_spec h
  · exact hall
  · rw [hexact] at hpart
    cases hpart

/-- A holder sends tokens, gets paid, and gets the rest of the tokens back. -/
def executeWithdrawCw20 (store : PoolStorage) (env : Env) (sender : Addr)
    (receivedScaled : Uint128) (amountUnderlying : Option Uint128) (exact : Bool)
    (commitFunds : Option Bool) : ContractResult (PoolStorage × Response) := do
  ensure (0 < receivedScaled.val) (illegalArgument "Withdraw amount must be greater than zero")
  let contract := store.contract
  let repoToken ← contract.repoTokenAddr
  let effectiveRequire := store.getLenderRequireCommitOnExit sender
  ensure (effectiveRequire = false ∨ commitFunds = some true) (illegalArgument
    ("Withdrawal requires commit_funds when commitment-on-exit is set; pass commit_funds: true " ++
      "to return funds to the committed market"))
  let (store, reserve) ← updateReserveIndexes store env contract.rateParams
  let totals ← reserveTotalsAndCashU128 reserve
  let w ← holderWithdrawAmounts receivedScaled amountUnderlying exact totals.cash
    reserve.liquidityIndex
  let (store, reserve) ← deductScaledLiquidityAndSave store reserve w.scaledToBurn
  let res := Response.new.addMessage (.wasmExecute repoToken (.burn w.scaledToBurn))
    |>.addMessage (bankSendUnderlying contract.lendingDenom.name sender w.underlyingToSend)
    |>.addText "action" (if exact then "withdraw_exact" else "withdraw")
    |>.addText "lender" sender
    |>.addText "amount" (toString w.underlyingToSend)
    |>.addText "scaled_amount" (toString w.scaledToBurn)
  let res ← addCommitMessage res (commitFunds == some true) contract env.contractAddress
    "withdraw" sender [⟨contract.lendingDenom.name, w.underlyingToSend⟩]
  let res ← addRefund res exact repoToken sender receivedScaled w.scaledToBurn
  let res ← res.attachRates reserve contract.rateParams
  return (store, res)

theorem executeWithdrawCw20_spec {s s' : PoolStorage} {env : Env} {sender : Addr}
    {received : Uint128} {amount : Option Uint128} {exact : Bool} {cf : Option Bool}
    {res : Response}
    (h : executeWithdrawCw20 s env sender received amount exact cf = .ok (s', res)) :
    ∃ (token : Addr) (r r' : ReserveStateV1) (t : ReserveTotals) (w : WithdrawAmounts),
      s.contract.repoTokenCw20Address = some token ∧
      AccruedTo s env.blockTime r ∧
      reserveTotalsAndCashU128 r = .ok t ∧
      holderWithdrawAmounts received amount exact t.cash r.liquidityIndex = .ok w ∧
      r' = { r with totalScaledLiquidity := r'.totalScaledLiquidity } ∧
      r'.totalScaledLiquidity.val + w.scaledToBurn.val = r.totalScaledLiquidity.val ∧
      s' = s.setReserveStateV1 r' ∧
      res.messages = [.wasmExecute token (.burn w.scaledToBurn),
          .bankSend sender [⟨s.contract.lendingDenom.name, w.underlyingToSend⟩]] ++
        commitMessages (cf == some true) s.contract env.contractAddress "withdraw" sender
          [⟨s.contract.lendingDenom.name, w.underlyingToSend⟩] ++
        refundMessages exact token sender received w.scaledToBurn := by
  simp only [executeWithdrawCw20, bind_eq_ok, Prod.exists, updateReserveIndexes_eq_ok,
    ensure_eq_ok, exists_const, ContractStateV1.repoTokenAddr, okOr_eq_ok, pure_eq_ok,
    Prod.mk.injEq] at h
  obtain ⟨-, token, htoken, -, _, r, ⟨hr, rfl⟩, t, ht, w, hw, _, r', hdeduct, res₁, hres₁,
    res₂, hres₂, res₃, hres₃, rfl, rfl⟩ := h
  obtain ⟨hr', htotal, rfl⟩ := deductScaledLiquidityAndSave_eq_ok hdeduct
  refine ⟨token, r, r', t, w, htoken, hr, ht, hw, hr', htotal, rfl, ?_⟩
  rw [attachRates_messages hres₃, addRefund_messages hres₂, addCommitMessage_messages hres₁]
  rfl

/-! ## Transfer -/

/-- The scaled units to forward, and the amount that the response reports. -/
structure TransferAmounts where
  scaledToSend : Uint128
  attributeAmount : Uint128

/-- How many of the sent tokens go to the recipient. -/
def transferAmounts (receivedScaled : Uint128) (amountUnderlying : Option Uint128)
    (exact : Bool) (liquidityIndex : Decimal256) : ContractResult TransferAmounts :=
  if exact then
    return { scaledToSend := receivedScaled, attributeAmount := receivedScaled }
  else do
    let amount ← okOr amountUnderlying (illegalArgument "Transfer amount required")
    ensure (amount.val ≠ 0) (illegalArgument "Transfer amount must be greater than zero")
    let scaled ← underlyingToScaledLiquidity amount liquidityIndex
    ensure (scaled.val ≤ receivedScaled.val) (illegalArgument
      (s!"Insufficient repo token sent: need {scaled} (scaled) for {amount} underlying, " ++
        s!"got {receivedScaled}"))
    return { scaledToSend := scaled, attributeAmount := amount }

/-- A holder sends tokens to be passed on to another lender. -/
def executeTransferCw20 (deps : Deps) (store : PoolStorage) (env : Env) (sender : Addr)
    (receivedScaled : Uint128) (recipient : String) (amountUnderlying : Option Uint128)
    (exact : Bool) : ContractResult (PoolStorage × Response) := do
  ensure (0 < receivedScaled.val) (illegalArgument "Transfer amount must be greater than zero")
  let contract := store.contract
  ensure (store.getLenderRequireCommitOnExit sender = false) (illegalArgument
    ("Transfers are not allowed while commitment-on-exit is required; withdraw with " ++
      "commit_funds to return funds to the committed market first"))
  let recipientAddr ← deps.addrValidate recipient
  ensure (sender ≠ recipientAddr) (illegalArgument "Recipient must be different from sender")
  let repoToken ← contract.repoTokenAddr
  validateLenderAttrs deps recipientAddr contract.lenderRequiredAttrs
  -- The indexes are read as of now, but not saved.
  let reserve ← computeEffectiveReserve store env.blockTime contract.rateParams
  let t ← transferAmounts receivedScaled amountUnderlying exact reserve.liquidityIndex
  let res := Response.new.addMessage (.wasmExecute repoToken (.transfer recipient t.scaledToSend))
    |>.addText "action" (if exact then "transfer_exact" else "transfer")
    |>.addText "lender" sender
    |>.addText "recipient" recipient
    |>.addText "amount" (toString t.attributeAmount)
    |>.addText "scaled_amount" (toString t.scaledToSend)
  let res ← addRefund res exact repoToken sender receivedScaled t.scaledToSend
  let res ← res.attachRates reserve contract.rateParams
  return (store, res)

theorem transferAmounts_spec {received : Uint128} {amount : Option Uint128} {exact : Bool}
    {li : Decimal256} {t : TransferAmounts}
    (h : transferAmounts received amount exact li = .ok t) :
    t.scaledToSend.val ≤ received.val ∧ (exact = true → t.scaledToSend = received) := by
  unfold transferAmounts at h
  split at h
  · rw [← pure_eq_ok.mp h]
    exact ⟨le_refl _, fun _ => rfl⟩
  · rename_i hexact
    simp only [bind_eq_ok, ensure_eq_ok, exists_const, pure_eq_ok, okOr_eq_ok] at h
    obtain ⟨_, _, -, _, _, hle, rfl⟩ := h
    exact ⟨hle, fun he => absurd he hexact⟩

/-- A transfer leaves the pool's storage as it was, interest included. -/
theorem executeTransferCw20_spec {deps : Deps} {s s' : PoolStorage} {env : Env} {sender : Addr}
    {received : Uint128} {recipient : String} {amount : Option Uint128} {exact : Bool}
    {res : Response}
    (h : executeTransferCw20 deps s env sender received recipient amount exact =
      .ok (s', res)) :
    ∃ (token : Addr) (sent : Uint128),
      s.contract.repoTokenCw20Address = some token ∧
      s' = s ∧
      sender ≠ recipient ∧
      sent.val ≤ received.val ∧
      (exact = true → sent = received) ∧
      res.messages = [.wasmExecute token (.transfer recipient sent)] ++
        refundMessages exact token sender received sent := by
  simp only [executeTransferCw20, bind_eq_ok, ensure_eq_ok, exists_const, addrValidate_eq_ok,
    ContractStateV1.repoTokenAddr, okOr_eq_ok, pure_eq_ok, Prod.mk.injEq] at h
  obtain ⟨-, -, _, ⟨-, rfl⟩, hne, token, htoken, -, -, r, -, t, ht, res₁, hres₁, res₂, hres₂,
    rfl, rfl⟩ := h
  obtain ⟨hle, hexact⟩ := transferAmounts_spec ht
  refine ⟨token, t.scaledToSend, htoken, rfl, hne, hle, hexact, ?_⟩
  rw [attachRates_messages hres₂, addRefund_messages hres₁]
  rfl

/-! ## Receive -/

/-- What a holder asks for with the tokens it sends. -/
inductive Cw20ReceivePayload
  | withdraw (amount : Uint128) (commitFunds : Option Bool)
  | withdrawExact (commitFunds : Option Bool)
  | transfer (recipient : String) (amount : Uint128)
  | transferExact (recipient : String)
deriving DecidableEq

/-- The message of the repo token.  `payload` is the decoded body, or the
complaint of the JSON decoder. -/
structure Cw20ReceiveMsg where
  sender : String
  amount : Uint128
  payload : Except String Cw20ReceivePayload

/-- The repo token's `Receive`: the payload goes to its handler. -/
def receive (deps : Deps) (store : PoolStorage) (env : Env) (info : MessageInfo)
    (cw20Msg : Cw20ReceiveMsg) : ContractResult (PoolStorage × Response) := do
  let repoToken ← store.contract.repoTokenAddr
  ensure (info.sender = repoToken) (illegalArgument
    s!"Only the repo token CW20 contract {repoToken} can send to this pool")
  match cw20Msg.payload with
  | .error e => throw (illegalArgument s!"Invalid receive payload: {e}")
  | .ok payload =>
    let sender ← deps.addrValidate cw20Msg.sender
    match payload with
    | .withdraw amount commitFunds =>
      executeWithdrawCw20 store env sender cw20Msg.amount (some amount) false commitFunds
    | .withdrawExact commitFunds =>
      executeWithdrawCw20 store env sender cw20Msg.amount none true commitFunds
    | .transfer recipient amount =>
      executeTransferCw20 deps store env sender cw20Msg.amount recipient (some amount) false
    | .transferExact recipient =>
      executeTransferCw20 deps store env sender cw20Msg.amount recipient none true

/-- The body of a withdrawal: for an amount, or for all that was sent (`exact`). -/
inductive Cw20ReceivePayload.Withdraws : Cw20ReceivePayload → Bool → Option Bool → Prop
  | amount (amount : Uint128) (commitFunds : Option Bool) :
      Withdraws (.withdraw amount commitFunds) false commitFunds
  | all (commitFunds : Option Bool) : Withdraws (.withdrawExact commitFunds) true commitFunds

/-- The body of a transfer, likewise. -/
inductive Cw20ReceivePayload.Transfers : Cw20ReceivePayload → Bool → String → Prop
  | amount (recipient : String) (amount : Uint128) :
      Transfers (.transfer recipient amount) false recipient
  | all (recipient : String) : Transfers (.transferExact recipient) true recipient

/-- Only the token makes the pool receive, and it brings a withdrawal or a transfer. -/
theorem receive_spec {deps : Deps} {s s' : PoolStorage} {env : Env} {info : MessageInfo}
    {cw20Msg : Cw20ReceiveMsg} {res : Response}
    (h : receive deps s env info cw20Msg = .ok (s', res)) :
    s.contract.repoTokenCw20Address = some info.sender ∧
      ∃ payload, cw20Msg.payload = .ok payload ∧
        ((∃ amount exact cf, payload.Withdraws exact cf ∧
            executeWithdrawCw20 s env cw20Msg.sender cw20Msg.amount amount exact cf =
              .ok (s', res)) ∨
          ∃ recipient amount exact, payload.Transfers exact recipient ∧
            executeTransferCw20 deps s env cw20Msg.sender cw20Msg.amount recipient amount exact =
              .ok (s', res)) := by
  simp only [receive, bind_eq_ok, ensure_eq_ok, exists_const, ContractStateV1.repoTokenAddr,
    okOr_eq_ok] at h
  obtain ⟨token, htoken, rfl, h⟩ := h
  refine ⟨htoken, ?_⟩
  split at h
  · cases h
  · rename_i payload hpayload
    simp only [bind_eq_ok, addrValidate_eq_ok] at h
    obtain ⟨_, ⟨-, rfl⟩, h⟩ := h
    refine ⟨payload, hpayload, ?_⟩
    cases payload with
    | withdraw amount cf => exact Or.inl ⟨_, _, _, .amount amount cf, h⟩
    | withdrawExact cf => exact Or.inl ⟨_, _, _, .all cf, h⟩
    | transfer recipient amount => exact Or.inr ⟨_, _, _, .amount recipient amount, h⟩
    | transferExact recipient => exact Or.inr ⟨_, _, _, .all recipient, h⟩

end DemocratizedPrime
