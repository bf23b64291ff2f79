import DemocratizedPrime.Pool.Deployment
import DemocratizedPrime.Pool.Accrual
import DemocratizedPrime.Lib.Run

/-!
# Steps and runs of the pool

An `Event` is one call of `execute` with all that it read and returned, and
`PoolStep s e s'` says that it succeeded on `s` and left `s'`.  `Reachable s`
says that some run of steps leads from a new pool to `s`.  Senders, funds, block
times and the answers of the host are those of the events, so a statement about
every reachable state is one about every order of calls by anyone.

`Effect s e s'` lists what a step can do, one constructor for each way of writing
the storage, and `PoolStep.effect` says that the list is complete.  An invariant
of the pool is a case analysis over `Effect`.
-/

namespace DemocratizedPrime

open Result Transitions

/-- A call of `execute`, with all that it reads besides the storage. -/
structure Call where
  deps : Deps
  env : Env
  info : MessageInfo
  msg : ExecuteMsg

/-- A call and its response. -/
structure Event extends Call where
  response : Response

/-- A message to the pool that succeeds. -/
def PoolStep (s : PoolStorage) (e : Event) (s' : PoolStorage) : Prop :=
  execute e.deps s e.env e.info e.msg = .ok (s', e.response)

/-- A state that some run of successful calls reaches from a new pool. -/
def Reachable (s : PoolStorage) : Prop :=
  ∃ t s₀ ts, DeployedAt t s₀ ∧ Run PoolStep s₀ ts s

/-- What every new pool satisfies and every step preserves holds of every
reachable state. -/
theorem Reachable.invariant {I : PoolStorage → Prop}
    (hfresh : ∀ t s, FreshPool t s → I s) (hstep : ∀ s e s', I s → PoolStep s e s' → I s')
    {s : PoolStorage} (h : Reachable s) : I s := by
  obtain ⟨t, s₀, ts, hdeployed, run⟩ := h
  exact run.invariant hstep (hfresh t s₀ hdeployed.fresh)

theorem Reachable.step {s s' : PoolStorage} {e : Event} (h : Reachable s)
    (hstep : PoolStep s e s') : Reachable s' := by
  obtain ⟨t, s₀, ts, hdeployed, run⟩ := h
  exact ⟨t, s₀, _, hdeployed, run.snoc hstep⟩

/-! ## Kinds of messages -/

/-- The messages that accrue interest to their block time. -/
def ExecuteMsg.accruesInterest : ExecuteMsg → Bool
  | .lend | .borrow .. | .repay | .removeCollateral .. | .liquidate .. | .withdrawReserve ..
  | .eliminateDeficit .. | .socializeDeficit .. | .updateRateParams .. | .withdraw .. => true
  | .receive cw20Msg =>
    match cw20Msg.payload with
    | .ok (.withdraw ..) | .ok (.withdrawExact ..) => true
    | _ => false
  | _ => false

/-- The messages that change neither a balance nor the configuration that the
balances are judged by. -/
def ExecuteMsg.isNeutral : ExecuteMsg → Bool
  | .updateOwnership .. | .adjustDirectedCollateralSale .. | .setOperationalState ..
  | .setLenderRequiredAttrs .. | .setBorrowerRequiredAttrs .. | .setBorrowerRequireCommit ..
  | .setLenderRequireCommitOnExit .. => true
  | .receive cw20Msg =>
    match cw20Msg.payload with
    | .ok (.transfer ..) | .ok (.transferExact ..) => true
    | _ => false
  | _ => false

/-- The messages that burn repo tokens: the owner's withdrawal, and a holder's. -/
def ExecuteMsg.isWithdrawal : ExecuteMsg → Bool
  | .withdraw .. => true
  | .receive cw20Msg =>
    match cw20Msg.payload with
    | .ok (.withdraw ..) | .ok (.withdrawExact ..) => true
    | _ => false
  | _ => false

/-! ## What a step can do -/

/-- What a neutral message leaves alone. -/
structure NeutralChange (s s' : PoolStorage) : Prop where
  reserve : s'.reserve = s.reserve
  scaledBorrow : s'.scaledBorrow = s.scaledBorrow
  borrowerCollateral : s'.borrowerCollateral = s.borrowerCollateral
  totalCollateralByAsset : s'.totalCollateralByAsset = s.totalCollateralByAsset
  contract : s'.contract = { s.contract with
    operationalState := s'.contract.operationalState
    lenderRequiredAttrs := s'.contract.lenderRequiredAttrs
    borrowerRequiredAttrs := s'.contract.borrowerRequiredAttrs }

/-- What a message that succeeds does to the books, one case for each handler that changes them. -/
inductive Effect (s : PoolStorage) (e : Event) : PoolStorage → Prop
  | neutral {s' : PoolStorage} (msg : e.msg.isNeutral = true)
      (sends : e.response.bankSends = []) (change : NeutralChange s s') : Effect s e s'
  | updateSupportedCollateral {toUpdate : List CollateralAssetV1} {toRemove : List String}
      {c' : ContractStateV1} (msg : e.msg = .updateSupportedCollateral toUpdate toRemove)
      (funds : e.info.funds = []) (sends : e.response.bankSends = [])
      (contract :
        c' = { s.contract with supportedCollateralAssets := c'.supportedCollateralAssets })
      (valid : SupportedListValid s.contract → SupportedListValid c')
      (keeps : ∀ a, s.contract.supports a = true → c'.supports a = true ∨ a ∈ toRemove)
      (unused : ∀ a ∈ toRemove, s.contract.supports a = true →
        (s.getTotalCollateralByAsset a).val = 0) :
      Effect s e (s.setContractStateV1 c')
  | updateContractConfig {params : UpdateContractConfigParams} {c' : ContractStateV1}
      (msg : e.msg = .updateContractConfig params) (funds : e.info.funds = [])
      (sends : e.response.bankSends = [])
      (applied : applyConfigParams e.deps s.reserve s.contract params = .ok c')
      (rates : RatesValid c'.marginRate c'.liquidationRate c'.liquidationBonusRate)
      (staleness : c'.maxLiquidationStalenessSeconds ≤ maxAllowedLiquidationStalenessSeconds)
      (permissionless : ensurePermissionlessConfig c'.liquidationAccess
        c'.maxLiquidationStalenessSeconds c'.badDebtLossAllocation
        s.reserve.deficitUnderlying.val = .ok ()) :
      Effect s e (s.setContractStateV1 c')
  | updateRateParams {rateParams : RateParamsV1} {r : ReserveStateV1}
      (msg : e.msg = .updateRateParams rateParams) (funds : e.info.funds = [])
      (sends : e.response.bankSends = []) (accrued : AccruedTo s e.env.blockTime r)
      (valid : rateParams.validate = .ok ()) :
      Effect s e ((s.setReserveStateV1 r).setContractStateV1 { s.contract with rateParams })
  | lend {amount minted total : Uint128} {r : ReserveStateV1} (msg : e.msg = .lend)
      (funds : e.info.funds = [⟨s.contract.lendingDenom.name, amount⟩])
      (sends : e.response.bankSends = []) (accrued : AccruedTo s e.env.blockTime r)
      (index : r.liquidityIndex.atomics ≠ 0)
      (minted_eq : minted.val = amount.val * decimalFractional / r.liquidityIndex.atomics)
      (total_eq : total.val = r.totalScaledLiquidity.val + minted.val) :
      Effect s e (s.setReserveStateV1 { r with totalScaledLiquidity := total })
  | burn {lender : Addr} {burned paid total : Uint128} {r : ReserveStateV1}
      (msg : e.msg.isWithdrawal = true)
      (sends : e.response.bankSends = [(lender, [⟨s.contract.lendingDenom.name, paid⟩])])
      (accrued : AccruedTo s e.env.blockTime r)
      (paid_eq : paid.val = burned.val * r.liquidityIndex.atomics / decimalFractional)
      (total_eq : total.val + burned.val = r.totalScaledLiquidity.val) :
      Effect s e (s.setReserveStateV1 { r with totalScaledLiquidity := total })
  | borrow {amount total : Uint128} {debt : DebtAfterBorrow} {r : ReserveStateV1}
      (msg : e.msg = .borrow amount) (funds : e.info.funds = [])
      (sends : e.response.bankSends =
        [(e.info.sender, [⟨s.contract.lendingDenom.name, amount⟩])])
      (accrued : AccruedTo s e.env.blockTime r)
      (debt_eq : debtAfterBorrow (s.getScaledBorrow e.info.sender) amount r.borrowIndex =
        .ok debt)
      (total_eq : total.val = r.totalScaledBorrow.val + debt.scaledDelta.val) :
      Effect s e ((s.setScaledBorrow e.info.sender debt.newScaled).setReserveStateV1
        { r with totalScaledBorrow := total })
  | repay {amount payoff cancelled left total : Uint128} {r : ReserveStateV1}
      (msg : e.msg = .repay)
      (funds : e.info.funds = [⟨s.contract.lendingDenom.name, amount⟩])
      (sends : e.response.bankSends =
        if (amount.min payoff).val < amount.val then
          [(e.info.sender, [⟨s.contract.lendingDenom.name,
            amount.saturatingSub (amount.min payoff)⟩])]
        else [])
      (accrued : AccruedTo s e.env.blockTime r)
      (payoff_eq : payoff.val = ((s.getScaledBorrow e.info.sender).val * r.borrowIndex.atomics +
        (decimalFractional - 1)) / decimalFractional)
      (cancelled_eq : scaledRepayFor (amount.min payoff) payoff
        (s.getScaledBorrow e.info.sender) r.borrowIndex = .ok cancelled)
      (left_eq : left.val + cancelled.val = (s.getScaledBorrow e.info.sender).val)
      (total_eq : total.val + cancelled.val = r.totalScaledBorrow.val) :
      Effect s e ((s.setScaledBorrow e.info.sender left).setReserveStateV1
        { r with totalScaledBorrow := total })
  | addCollateral {held totals : Amounts} (msg : e.msg = .addCollateral)
      (sends : e.response.bankSends = [])
      (coins : ∀ c ∈ e.info.funds, c.amount.val ≠ 0 ∧ s.contract.supports c.denom = true)
      (held_eq : Added (s.getBorrowerCollateral e.info.sender) e.info.funds held)
      (totals_eq : Added s.totalCollateralByAsset e.info.funds totals) :
      Effect s e
        { s.setBorrowerCollateral e.info.sender held with totalCollateralByAsset := totals }
  | removeCollateral {toRemove held totals : Amounts} {r : ReserveStateV1}
      (msg : e.msg = .removeCollateral toRemove) (funds : e.info.funds = [])
      (sends : e.response.bankSends = [(e.info.sender, toRemove.toList.map entryCoin)])
      (accrued : AccruedTo s e.env.blockTime r)
      (entries : ∀ x ∈ toRemove.toList, x.2.val ≠ 0 ∧ s.contract.supports x.1 = true)
      (held_eq : Taken (s.getBorrowerCollateral e.info.sender) (toRemove.toList.map entryCoin)
        held)
      (totals_eq : Taken s.totalCollateralByAsset (toRemove.toList.map entryCoin) totals) :
      Effect s e { (s.setReserveStateV1 r).setBorrowerCollateral e.info.sender held with
        totalCollateralByAsset := totals }
  | liquidate {borrower : String} {seize outgoing totals : Amounts} {t : LiquidationTarget}
      {p : LiquidationPlan} {r' : ReserveStateV1}
      {offers : Std.ExtTreeMap Addr DirectedSaleOfferV1}
      (msg : e.msg = .liquidate borrower seize)
      (target : t.Valid e.deps s e.env e.info borrower seize)
      (plan : p.Valid s.ownership s.contract e.info t seize)
      (booked : bookRepayment s.contract t.reserve p = .ok r')
      (sends : e.response.bankSends = (sendMessages e.info.sender
          (outgoing.toList.map entryCoin)).filterMap CosmosMsg.bankSend? ++
        (refundOf e.info.sender s.contract.lendingDenom.name p.sent
          p.actualRepay).filterMap CosmosMsg.bankSend?)
      (outgoing_eq : Added ∅ (seizedCoins p seize) outgoing)
      (totals_eq : Taken s.totalCollateralByAsset (seizedCoins p seize) totals) :
      Effect s e
        { ((s.setScaledBorrow t.borrower
              (if p.badDebt then 0 else p.newScaledDebt)).setReserveStateV1
            r').setBorrowerCollateral t.borrower (if p.badDebt then ∅ else p.postCollateral) with
          totalCollateralByAsset := totals
          directedSaleOffer := offers }
  | eliminateFromReserve {r : ReserveStateV1} {funding : EliminateDeficitFunding}
      {deficit accruedReserve : Uint128} {clear : Nat} (msg : e.msg = .eliminateDeficit funding)
      (funds : e.info.funds = []) (sends : e.response.bankSends = [])
      (accrued : AccruedTo s e.env.blockTime r)
      (deficit_eq : deficit.val + clear = r.deficitUnderlying.val)
      (reserve_eq : accruedReserve.val + clear = r.accruedReserve.val) :
      Effect s e (s.setReserveStateV1 { r with deficitUnderlying := deficit, accruedReserve })
  | eliminateFromBank {r : ReserveStateV1} {funding : EliminateDeficitFunding}
      {deficit received applied : Uint128} (msg : e.msg = .eliminateDeficit funding)
      (funds : e.info.funds = [⟨s.contract.lendingDenom.name, received⟩])
      (sends : e.response.bankSends =
        if applied.val < received.val then
          [(e.info.sender, [⟨s.contract.lendingDenom.name, received.saturatingSub applied⟩])]
        else [])
      (accrued : AccruedTo s e.env.blockTime r) (applied_le : applied.val ≤ received.val)
      (deficit_eq : deficit.val + applied.val = r.deficitUnderlying.val) :
      Effect s e (s.setReserveStateV1 { r with deficitUnderlying := deficit })
  | socializeDeficit {maxAmount amount deficit : Uint128} {r cut : ReserveStateV1}
      (msg : e.msg = .socializeDeficit maxAmount) (funds : e.info.funds = [])
      (sends : e.response.bankSends = []) (accrued : AccruedTo s e.env.blockTime r)
      (amount_pos : 0 < amount.val)
      (haircut : applyProRataLiquidityIndexHaircut r amount = .ok cut)
      (deficit_eq : deficit.val + amount.val = cut.deficitUnderlying.val) :
      Effect s e (s.setReserveStateV1 { cut with deficitUnderlying := deficit })
  | withdrawReserve {recipient : Option String} {r : ReserveStateV1} {toAddress : Addr}
      {pay left : Uint128} (msg : e.msg = .withdrawReserve recipient)
      (funds : e.info.funds = [])
      (sends : e.response.bankSends = [(toAddress, [⟨s.contract.lendingDenom.name, pay⟩])])
      (accrued : AccruedTo s e.env.blockTime r)
      (no_deficit : r.deficitUnderlying.val = 0)
      (left_le : left.val + pay.val ≤ r.accruedReserve.val) :
      Effect s e (s.setReserveStateV1 { r with accruedReserve := left })

/-! ## The list is complete -/

/-- The sends of a response whose messages are known. -/
theorem bankSends_eq {res : Response} {ms : List CosmosMsg} (h : res.messages = ms) :
    res.bankSends = ms.filterMap CosmosMsg.bankSend? := by
  rw [Response.bankSends, h]

@[simp] theorem refundMessages_bankSends (exact : Bool) (token : Addr) (sender : String)
    (received used : Uint128) :
    (refundMessages exact token sender received used).filterMap CosmosMsg.bankSend? = [] := by
  unfold refundMessages
  split <;> rfl

theorem bankSends_ite {p : Prop} [Decidable p] (a : Addr) (coins : List Coin) :
    (if p then [CosmosMsg.bankSend a coins] else []).filterMap CosmosMsg.bankSend? =
      if p then [(a, coins)] else [] := by
  split <;> rfl

theorem excessMessages_bankSends (env : Env) (info : MessageInfo) (c : ContractStateV1)
    (cf : Bool) (amount used : Uint128) :
    (excessMessages env info c cf amount used).filterMap CosmosMsg.bankSend? =
      if used.val < amount.val then
        [(info.sender, [⟨c.lendingDenom.name, amount.saturatingSub used⟩])]
      else [] := by
  unfold excessMessages
  split
  · rw [List.filterMap_cons, commitMessages_bankSends]
    rfl
  · rfl

/-- A neutral message, from what its handler returned. -/
theorem Effect.ofNeutral {s s' : PoolStorage} {e : Event} (msg : e.msg.isNeutral = true)
    (messages : e.response.messages = []) (change : NeutralChange s s') : Effect s e s' :=
  .neutral msg (by rw [bankSends_eq messages]; rfl) change

theorem Cw20ReceivePayload.Withdraws.isWithdrawal {payload : Cw20ReceivePayload} {exact : Bool}
    {cf : Option Bool} (h : payload.Withdraws exact cf) (holder : Addr) (received : Uint128) :
    (ExecuteMsg.receive ⟨holder, received, .ok payload⟩).isWithdrawal = true := by
  cases h with
  | amount => rfl
  | all => rfl

theorem Cw20ReceivePayload.Transfers.isNeutral {payload : Cw20ReceivePayload} {exact : Bool}
    {recipient : String} (h : payload.Transfers exact recipient) (holder : Addr)
    (received : Uint128) :
    (ExecuteMsg.receive ⟨holder, received, .ok payload⟩).isNeutral = true := by
  cases h with
  | amount => rfl
  | all => rfl

/-- The calls of the repo token: a withdrawal burns, and a transfer changes nothing. -/
theorem receive_effect {s s' : PoolStorage} {e : Event} {cw20Msg : Cw20ReceiveMsg}
    (hmsg : e.msg = .receive cw20Msg)
    (h : receive e.deps s e.env e.info cw20Msg = .ok (s', e.response)) : Effect s e s' := by
  obtain ⟨holder, received, body⟩ := cw20Msg
  obtain ⟨-, payload, rfl, ⟨amount, exact, cf, hbody, hwithdraw⟩ |
    ⟨recipient, amount, exact, hbody, htransfer⟩⟩ := receive_spec h
  · obtain ⟨token, r, r', t, w, -, hr, -, hw, hr', htotal, rfl, hmessages⟩ :=
      executeWithdrawCw20_spec hwithdraw
    have hsends : e.response.bankSends =
        [(holder, [⟨s.contract.lendingDenom.name, w.underlyingToSend⟩])] := by
      rw [bankSends_eq hmessages]
      simp [List.filterMap_cons]
    rw [hr']
    exact .burn (hmsg ▸ hbody.isWithdrawal holder received) hsends hr
      (holderWithdrawAmounts_spec hw).1 htotal
  · obtain ⟨token, sent, -, rfl, -, -, -, hmessages⟩ := executeTransferCw20_spec htransfer
    refine .neutral (hmsg ▸ hbody.isNeutral holder received) ?_ ⟨rfl, rfl, rfl, rfl, rfl⟩
    rw [bankSends_eq hmessages]
    simp [List.filterMap_cons]

theorem eliminateDeficit_effect {s s' : PoolStorage} {e : Event}
    {funding : EliminateDeficitFunding} (hmsg : e.msg = .eliminateDeficit funding)
    (h : eliminateDeficit s e.env e.info funding = .ok (s', e.response)) : Effect s e s' := by
  obtain ⟨r, r', hr, -, rfl, hfund⟩ := eliminateDeficit_spec h
  rcases hfund with ⟨max, -, -, hfunds, hmessages, hr', clear, -, hdeficit, hreserve⟩ |
    ⟨received, applied, hfunds, -, hle, hr', hdeficit, hmessages⟩
  · rw [hr']
    exact .eliminateFromReserve hmsg hfunds (by rw [bankSends_eq hmessages]; rfl) hr hdeficit
      hreserve
  · rw [hr']
    exact .eliminateFromBank hmsg hfunds (by rw [bankSends_eq hmessages, bankSends_ite]) hr hle
      hdeficit

theorem liquidate_effect {s s' : PoolStorage} {e : Event} {borrower : String} {seize : Amounts}
    (hmsg : e.msg = .liquidate borrower seize)
    (h : liquidate e.deps s e.env e.info borrower seize = .ok (s', e.response)) :
    Effect s e s' := by
  obtain ⟨t, p, r', outgoing, totals, ht, hp, hbook, hout, htotals, hs', hmessages⟩ :=
    liquidate_spec h
  rw [shrinkOffer_eq] at hs'
  rw [hs']
  refine .liquidate hmsg ht hp hbook ?_ hout htotals
  rw [bankSends_eq hmessages, List.filterMap_append]

/-- Every step is one of the effects. -/
theorem PoolStep.effect {s s' : PoolStorage} {e : Event} (h : PoolStep s e s') :
    Effect s e s' := by
  have hd : dispatch e.deps s e.env e.info e.msg = .ok (s', e.response) := execute_eq_ok h
  have neutral {m : ExecuteMsg} (hm : e.msg = m) (hk : m.isNeutral = true) :
      e.msg.isNeutral = true := hm ▸ hk
  cases hm : e.msg with
  | updateOwnership action =>
    rw [hm] at hd
    obtain ⟨o, rfl, -, hmessages⟩ := updateOwnership_spec hd
    exact .ofNeutral (neutral hm rfl) hmessages ⟨rfl, rfl, rfl, rfl, rfl⟩
  | lend =>
    rw [hm] at hd
    obtain ⟨token, amount, minted, total, r, -, hr, hfunds, hli, hminted, -, htotal, rfl,
      hmessages⟩ := lend_spec hd
    exact .lend hm hfunds (by rw [bankSends_eq hmessages]; rfl) hr hli hminted htotal
  | receive cw20Msg =>
    rw [hm] at hd
    exact receive_effect hm hd
  | borrow amount =>
    rw [hm] at hd
    obtain ⟨r, t, debt, prices, position, total, hfunds, hr, -, -, hdebt, -, -, -, htotal, rfl,
      hmessages⟩ := borrow_spec hd
    refine .borrow hm hfunds ?_ hr hdebt htotal
    rw [bankSends_eq hmessages]
    simp
  | repay =>
    rw [hm] at hd
    obtain ⟨amount, payoff, cancelled, left, total, r, hfunds, hr, hpayoff, hcancelled, -, hleft,
      htotal, rfl, hmessages⟩ := repay_spec hd
    exact .repay hm hfunds (by rw [bankSends_eq hmessages, excessMessages_bankSends]) hr hpayoff
      hcancelled hleft htotal
  | addCollateral =>
    rw [hm] at hd
    obtain ⟨held, totals, hcoins, hheld, htotals, rfl, hmessages⟩ := addCollateral_spec hd
    exact .addCollateral hm (by rw [bankSends_eq hmessages]; rfl) hcoins hheld htotals
  | removeCollateral toRemove =>
    rw [hm] at hd
    obtain ⟨r, debt, held, totals, hfunds, hentries, hheld, hr, -, -, htotals, rfl, hmessages⟩ :=
      removeCollateral_spec hd
    refine .removeCollateral hm hfunds ?_ hr hentries hheld htotals
    rw [bankSends_eq hmessages]
    simp
  | adjustDirectedCollateralSale adjustments expiresAt version =>
    rw [hm] at hd
    obtain ⟨-, hmessages, rfl | ⟨offer, rfl⟩⟩ := adjustDirectedCollateralSale_spec hd
    · exact .ofNeutral (neutral hm rfl) hmessages ⟨rfl, rfl, rfl, rfl, rfl⟩
    · exact .ofNeutral (neutral hm rfl) hmessages ⟨rfl, rfl, rfl, rfl, rfl⟩
  | liquidate borrower seize =>
    rw [hm] at hd
    exact liquidate_effect hm hd
  | updateSupportedCollateral toUpdate toRemove =>
    rw [hm] at hd
    obtain ⟨c', hfunds, hc', hvalid, hkeeps, hunused, rfl, hmessages⟩ :=
      updateSupportedCollateral_spec hd
    exact .updateSupportedCollateral hm hfunds (by rw [bankSends_eq hmessages]; rfl) hc' hvalid
      hkeeps hunused
  | withdrawReserve recipient =>
    rw [hm] at hd
    obtain ⟨r, toAddress, t, bank, backed, pay, left, -, hfunds, hr, hzero, -, -, hbacked, hpay, -,
      hleft, rfl, hmessages, -⟩ := withdrawReserve_spec hd
    refine .withdrawReserve hm hfunds (by rw [bankSends_eq hmessages]; rfl) hr hzero ?_
    omega
  | eliminateDeficit funding =>
    rw [hm] at hd
    exact eliminateDeficit_effect hm hd
  | socializeDeficit maxAmount =>
    rw [hm] at hd
    obtain ⟨r, cut, amt, deficit, -, hfunds, hr, hpos, hcut, hdeficit, rfl, hmessages⟩ :=
      socializeDeficit_spec hd
    exact .socializeDeficit hm hfunds (by rw [bankSends_eq hmessages]; rfl) hr hpos hcut hdeficit
  | setOperationalState state =>
    rw [hm] at hd
    obtain ⟨-, rfl, hmessages⟩ := setOperationalState_spec hd
    exact .ofNeutral (neutral hm rfl) hmessages ⟨rfl, rfl, rfl, rfl, rfl⟩
  | setLenderRequiredAttrs attrs =>
    rw [hm] at hd
    obtain ⟨-, rfl, hmessages⟩ := setLenderRequiredAttrs_spec hd
    exact .ofNeutral (neutral hm rfl) hmessages ⟨rfl, rfl, rfl, rfl, rfl⟩
  | setBorrowerRequiredAttrs attrs =>
    rw [hm] at hd
    obtain ⟨-, rfl, hmessages⟩ := setBorrowerRequiredAttrs_spec hd
    exact .ofNeutral (neutral hm rfl) hmessages ⟨rfl, rfl, rfl, rfl, rfl⟩
  | updateContractConfig params =>
    rw [hm] at hd
    obtain ⟨c', hfunds, happlied, hrates, hstale, hperm, rfl, hmessages⟩ :=
      updateContractConfig_spec hd
    exact .updateContractConfig hm hfunds (by rw [bankSends_eq hmessages]; rfl) happlied hrates
      hstale hperm
  | updateRateParams rateParams =>
    rw [hm] at hd
    obtain ⟨r, hfunds, hvalid, hr, rfl, hmessages⟩ := updateRateParams_spec hd
    exact .updateRateParams hm hfunds (by rw [bankSends_eq hmessages]; rfl) hr hvalid
  | setBorrowerRequireCommit address require =>
    rw [hm] at hd
    obtain ⟨-, -, rfl, hmessages⟩ := setBorrowerRequireCommit_spec hd
    exact .ofNeutral (neutral hm rfl) hmessages ⟨rfl, rfl, rfl, rfl, rfl⟩
  | setLenderRequireCommitOnExit address require =>
    rw [hm] at hd
    obtain ⟨-, -, rfl, hmessages⟩ := setLenderRequireCommitOnExit_spec hd
    exact .ofNeutral (neutral hm rfl) hmessages ⟨rfl, rfl, rfl, rfl, rfl⟩
  | withdraw lender amount commitFunds =>
    rw [hm] at hd
    obtain ⟨token, r, r', bal, max, t, w, -, -, -, hr, -, -, -, -, hw, hr', htotal, rfl,
      hmessages⟩ := executeWithdraw_spec hd
    have hsends : e.response.bankSends =
        [(trim lender, [⟨s.contract.lendingDenom.name, w.underlyingToSend⟩])] := by
      rw [bankSends_eq hmessages]
      simp [List.filterMap_cons]
    rw [hr']
    exact .burn (hm ▸ rfl) hsends hr (ownerWithdrawAmounts_spec hw).1 htotal

/-- No message binds the pool to another token or denomination. -/
theorem PoolStep.bindings_eq {s s' : PoolStorage} {e : Event} (h : PoolStep s e s') :
    s'.contract.repoTokenCw20Address = s.contract.repoTokenCw20Address ∧
      s'.contract.lendingDenom = s.contract.lendingDenom := by
  cases h.effect with
  | neutral _ _ change =>
    rw [change.contract]
    exact ⟨rfl, rfl⟩
  | updateSupportedCollateral _ _ _ contract =>
    rw [PoolStorage.setContractStateV1_contract, contract]
    exact ⟨rfl, rfl⟩
  | updateContractConfig _ _ _ applied =>
    rw [PoolStorage.setContractStateV1_contract, (applyConfigParams_spec applied).1]
    exact ⟨rfl, rfl⟩
  | _ => exact ⟨rfl, rfl⟩

end DemocratizedPrime
