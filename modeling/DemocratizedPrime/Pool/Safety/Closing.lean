import DemocratizedPrime.Pool.Safety.DebtFreeExit
import DemocratizedPrime.Pool.Safety.DebtPayments

/-!
# Closing a position

A borrower leaves with two messages, a `Repay` of the closing price or more and a
`RemoveCollateral` of everything.  `borrower_can_close` says that both go through, one after the
other in a block, what they cost, and what comes back.

The repayment subtracts the debt from the total, which covers it (`DebtLedger`); it sends back
only what the borrower attached; and the rates that it reports are those of a lower utilization
(`RatesComputed.ofLessDebt`).  What follows is the removal of a borrower without debt.
-/

namespace DemocratizedPrime

open Result TreeMap Transitions

section

variable {s s' : PoolStorage} {deps : Deps} {env : Env} {info : MessageInfo}

/-! ## Less debt -/

/-- Less debt against the same liquidity is a lower utilization, and is computed. -/
theorem utilization_ofLessDebt {r : ReserveStateV1} {total : Uint128} {u : Decimal256}
    (hle : total.val ≤ r.totalScaledBorrow.val) (h : r.utilization = .ok u) :
    ∃ u', ({ r with totalScaledBorrow := total }).utilization = .ok u' ∧ u' ≤ u := by
  simp only [ReserveStateV1.utilization, bind_eq_ok] at h
  obtain ⟨l, hl, h⟩ := h
  have hl' : ({ r with totalScaledBorrow := total }).totalLiquidity = .ok l := hl
  by_cases hzero : l.isZero = true
  · rw [if_pos hzero] at h
    refine ⟨u, ?_, Nat.le_refl _⟩
    rw [ReserveStateV1.utilization, hl', ok_bind, if_pos hzero]
    exact h
  · rw [if_neg hzero, bind_eq_ok] at h
    obtain ⟨b, hb, hdiv⟩ := h
    obtain ⟨hne, hu⟩ := Decimal256.checkedDiv_eq_ok.mp hdiv
    have hb := totalBorrow_eq_ok.mp hb
    have hless : total.val * r.borrowIndex.atomics ≤ b.atomics := by
      rw [hb]
      exact Nat.mul_le_mul_right _ hle
    have hb' : ({ r with totalScaledBorrow := total }).totalBorrow =
        .ok ⟨_, Nat.lt_of_le_of_lt hless b.isLt⟩ := totalBorrow_eq_ok.mpr rfl
    have hquot : total.val * r.borrowIndex.atomics * decimalFractional / l.atomics ≤ u.atomics := by
      rw [hu]
      exact Nat.div_le_div_right (Nat.mul_le_mul_right _ hless)
    refine ⟨⟨_, Nat.lt_of_le_of_lt hquot u.isLt⟩, ?_, hquot⟩
    rw [ReserveStateV1.utilization, hl', ok_bind, if_neg hzero, hb', ok_bind,
      Decimal256.checkedDiv_eq_ok]
    exact ⟨hne, rfl⟩

theorem RatesComputed.ofLessDebt {r : ReserveStateV1} {p : RateParamsV1} {total : Uint128}
    (hp : p.Valid) (hle : total.val ≤ r.totalScaledBorrow.val) (h : RatesComputed r p) :
    RatesComputed { r with totalScaledBorrow := total } p := by
  obtain ⟨u, br, lr, hu, hbr, hlr⟩ := h
  obtain ⟨u', hu', huu'⟩ := utilization_ofLessDebt hle hu
  obtain ⟨br', hbr'⟩ := isOk_borrowerRate_mono hp huu' ⟨_, hbr⟩
  have hmin : p.minRate ≤ br' := by
    rw [Decimal256.le_def, borrowerRate_eq hp hbr']
    exact RateParamsV1.minRate_le_curve hp _
  obtain ⟨lr', hlr'⟩ := isOk_lenderRate_mono hp huu' hmin (borrowerRate_mono hp huu' hbr' hbr)
    ⟨_, hlr⟩
  exact ⟨u', br', lr', hu', hbr', hlr'⟩

/-! ## The repayment -/

/-- What the repayment of a whole debt depends on. -/
structure ClosingAllowed (s : PoolStorage) (env : Env) (b : Addr) (coins : Uint128)
    (r : ReserveStateV1) : Prop where
  running : s.contract.operationalState ≠ .paused
  indebted : 0 < (s.getScaledBorrow b).val
  accrued : AccruedTo s env.blockTime r
  rates : RatesComputed r s.contract.rateParams
  enough : closingPrice (s.getScaledBorrow b).val r.borrowIndex ≤ coins.val

/-- The price is not zero, so neither are the coins. -/
theorem ClosingAllowed.coins_pos {b : Addr} {coins : Uint128} {r : ReserveStateV1}
    (hreach : Reachable s) (h : ClosingAllowed s env b coins r) : 0 < coins.val := by
  have hindex : decimalFractional ≤ r.borrowIndex.atomics :=
    Nat.le_trans hreach.indexesPositive.borrow h.accrued.borrowIndex_le
  have hpaid := Nat.le_trans (le_closingPrice_mul (s.getScaledBorrow b).val r.borrowIndex)
    (Nat.mul_le_mul_right _ h.enough)
  have hindebted := Nat.mul_le_mul h.indebted hindex
  by_contra hzero
  rw [Nat.le_zero.mp (Nat.not_lt.mp hzero)] at hpaid
  unfold decimalFractional at hindebted
  omega

/-- A rule to commit what goes back comes with a market, and nothing else can stop the refund. -/
theorem refundExcess_isOk (hreach : Reachable s) (res : Response) (account : Addr)
    (amount used : Uint128) : IsOk (refundExcess res env ⟨account, info.funds⟩ s.contract
      (s.getBorrowerRequireCommit account) amount used) := by
  have hmarket : some (s.getBorrowerRequireCommit account) = some true →
      s.contract.commitMarketId.isSome = true :=
    fun hrule => hreach.marketSet account (Or.inl (Option.some.inj hrule))
  have hsame : (some (s.getBorrowerRequireCommit account) == some true) =
      s.getBorrowerRequireCommit account := by
    cases s.getBorrowerRequireCommit account <;> rfl
  have hcommit (res : Response) := addCommitMessage_isOk hmarket res env.contractAddress account
    "repay"
  rw [hsame] at hcommit
  unfold refundExcess
  split
  · rename_i hlt
    have hsome : amount.checkedSub used ≠ none := by
      rw [ne_eq, Uint.checkedSub_eq_none]
      omega
    obtain ⟨excess, hexcess⟩ := Option.ne_none_iff_exists'.mp hsome
    exact IsOk.bind (okOr_eq_ok.mpr hexcess) (hcommit _ _)
  · exact isOk_pure

/-- The pool accepts it. -/
theorem ClosingAllowed.isOk {coins : Uint128} {r : ReserveStateV1} (hreach : Reachable s)
    (h : ClosingAllowed s env info.sender coins r)
    (hfunds : info.funds = [⟨s.contract.lendingDenom.name, coins⟩]) :
    IsOk (execute deps s env info .repay) := by
  have hpos := h.coins_pos hreach
  -- The price fits because it is not more than the coins.
  have hfits : closingPrice (s.getScaledBorrow info.sender).val r.borrowIndex < 2 ^ 128 :=
    Nat.lt_of_le_of_lt h.enough coins.isLt
  have hpayoff : scaledToUnderlyingBorrowCeil (s.getScaledBorrow info.sender) r.borrowIndex =
      .ok ⟨_, hfits⟩ := scaledToUnderlyingBorrowCeil_of_eq rfl
  have hmin : coins.min ⟨_, hfits⟩ = ⟨_, hfits⟩ := by
    apply Uint.ext
    rw [Uint.min_val]
    exact Nat.min_eq_right h.enough
  have hcancelled : scaledRepayFor ⟨_, hfits⟩ ⟨_, hfits⟩ (s.getScaledBorrow info.sender)
      r.borrowIndex = .ok (s.getScaledBorrow info.sender) := by
    rw [scaledRepayFor, if_pos (Nat.le_refl _)]
    rfl
  have htotal : (s.getScaledBorrow info.sender).val ≤ r.totalScaledBorrow.val := by
    rw [h.accrued.totalScaledBorrow]
    exact hreach.debtLedger.getScaledBorrow_le info.sender
  have hleft : (s.getScaledBorrow info.sender).checkedSub (s.getScaledBorrow info.sender) =
      some 0 := by
    rw [Uint.checkedSub_eq_some, Uint.val_zero, Nat.zero_add]
  have hsome : r.totalScaledBorrow.checkedSub (s.getScaledBorrow info.sender) ≠ none := by
    rw [ne_eq, Uint.checkedSub_eq_none]
    omega
  obtain ⟨total, htotal_eq⟩ := Option.ne_none_iff_exists'.mp hsome
  have hless : total.val ≤ r.totalScaledBorrow.val := by
    have hsum := Uint.checkedSub_eq_some.mp htotal_eq
    omega
  have hrates := h.rates.ofLessDebt (RateParamsV1.validate_spec hreach.rateParams_valid) hless
  refine IsOk.ensure (.inr h.running) (IsOk.ensure (.inr rfl) ?_)
  show IsOk (repay s env info)
  refine IsOk.bind (validateSingleCoinDenom_eq_ok.mpr ⟨hfunds, hpos⟩) ?_
  refine IsOk.bind (updateReserveIndexes_eq_ok (x := (s.setReserveStateV1 r, r)).mpr
    ⟨h.accrued, rfl⟩) ?_
  refine IsOk.ensure h.indebted (IsOk.bind hpayoff ?_)
  dsimp only
  rw [hmin]
  refine IsOk.bind hcancelled (IsOk.ensure h.indebted ?_)
  refine IsOk.bind (okOr_eq_ok.mpr hleft) (IsOk.bind (okOr_eq_ok.mpr htotal_eq) ?_)
  exact IsOk.bind_any (refundExcess_isOk hreach _ info.sender _ _) fun _ _ =>
    IsOk.bind_any (isOk_attachRates_iff.mpr hrates) fun _ _ => isOk_pure

/-- What it leaves: no debt, and all the rest as it was. -/
structure DebtClosed (s : PoolStorage) (e : Event) (coins : Uint128) (r : ReserveStateV1)
    (s' : PoolStorage) : Prop where
  debt : (s'.getScaledBorrow e.info.sender).val = 0
  contract : s'.contract = s.contract
  collateral : s'.borrowerCollateral = s.borrowerCollateral
  accrued : AccruedTo s' e.env.blockTime s'.reserve
  rates : RatesComputed s'.reserve s'.contract.rateParams
  to_sender : ∀ send ∈ e.response.bankSends, send.1 = e.info.sender
  refund : ∀ d, coinsOf d e.response.sentCoins = if d = s.contract.lendingDenom.name then
    coins.val - closingPrice (s.getScaledBorrow e.info.sender).val r.borrowIndex else 0

theorem ClosingAllowed.closed {e : Event} {coins : Uint128} {r : ReserveStateV1}
    (hreach : Reachable s) (h : ClosingAllowed s e.env e.info.sender coins r)
    (hmsg : e.msg = .repay) (hfunds : e.info.funds = [⟨s.contract.lendingDenom.name, coins⟩])
    (hstep : PoolStep s e s') : DebtClosed s e coins r s' := by
  have hd : dispatch e.deps s e.env e.info e.msg = .ok (s', e.response) := execute_eq_ok hstep
  rw [hmsg] at hd
  obtain ⟨amount, payoff, cancelled, left, total, r', hfunds', hr', hpayoff, hcancelled, -, hleft,
    htotal, rfl, hmessages⟩ := repay_spec hd
  obtain rfl := hr'.unique h.accrued
  rw [hfunds'] at hfunds
  obtain rfl : amount = coins := by simpa using hfunds
  have hprice : payoff.val = closingPrice (s.getScaledBorrow e.info.sender).val r'.borrowIndex :=
    hpayoff
  have henough := h.enough
  rw [← hprice] at henough
  have hmin : amount.min payoff = payoff := by
    apply Uint.ext
    rw [Uint.min_val]
    exact Nat.min_eq_right henough
  rw [hmin, scaledRepayFor, if_pos (Nat.le_refl _), pure_eq_ok] at hcancelled
  rw [hmin] at hmessages
  have hsends : e.response.bankSends = _ :=
    (bankSends_eq hmessages).trans (excessMessages_bankSends _ _ _ _ _ _)
  have hzero : left.val = 0 := by
    rw [hcancelled] at hleft
    omega
  refine ⟨?_, rfl, rfl, ?_, ?_, fun send hsend => ?_, fun d => ?_⟩
  · show (PoolStorage.getScaledBorrow (s.setScaledBorrow e.info.sender left) e.info.sender).val = 0
    rw [PoolStorage.getScaledBorrow_set, if_pos rfl]
    exact hzero
  · exact AccruedTo.still hr'.elapsed_eq_zero
  · exact h.rates.ofLessDebt (RateParamsV1.validate_spec hreach.rateParams_valid) (by omega)
  · rw [hsends] at hsend
    split at hsend
    · rw [List.mem_singleton.mp hsend]
    · cases hsend
  · rw [Response.sentCoins, hsends, ← hprice]
    split
    · simp only [List.flatMap_cons, List.flatMap_nil, List.append_nil, coinsOf_cons, coinsOf_nil,
        Uint.saturatingSub_val, eq_comm]
      rfl
    · have hall : amount.val - payoff.val = 0 := by omega
      simp [hall]

end

/-! ## The transactions -/

section

variable {address b : Addr} {t : Timestamp} {w₀ w w₁ w₂ : World}
  {ts : List (Transition World Event)} {deps : Deps} {env : Env} {coins : Uint128}
  {r : ReserveStateV1}

/-- The repayment of what is attached. -/
def World.repayCall (w : World) (deps : Deps) (env : Env) (b : Addr) (coins : Uint128) : Call :=
  ⟨deps, env, ⟨b, [⟨w.pool.contract.lendingDenom.name, coins⟩]⟩, .repay⟩

/-- The removal of all that the borrower holds. -/
def World.leaveCall (w : World) (deps : Deps) (env : Env) (b : Addr) : Call :=
  ⟨deps, env, ⟨b, []⟩, .removeCollateral (w.pool.getBorrowerCollateral b)⟩

/-- The repayment is delivered: the coins cover what goes back of them. -/
theorem ClosingAllowed.delivered (h : ClosingAllowed w.pool env b coins r)
    (hreach : Reachable w.pool) (deps : Deps) (hb : b ≠ address)
    (haddress : env.contractAddress = address)
    (covered : coins.val ≤ w.bank b w.pool.contract.lendingDenom.name) :
    ∃ response w₁, WorldStep address w { w.repayCall deps env b coins with response } w₁ ∧
      DebtClosed w.pool { w.repayCall deps env b coins with response } coins r w₁.pool := by
  let c : Call := w.repayCall deps env b coins
  have hok : IsOk (execute c.deps w.pool c.env c.info c.msg) := h.isOk hreach rfl
  obtain ⟨⟨pool, response⟩, hexecute⟩ := hok
  have hclosed : DebtClosed w.pool { c with response } coins r pool :=
    ClosingAllowed.closed hreach h rfl rfl hexecute
  obtain ⟨funded, hfunded⟩ : IsOk (payCoins b address w.bank c.info.funds) := by
    refine isOk_payCoins (fun he => hb he.symm) fun d => ?_
    show coinsOf d [⟨w.pool.contract.lendingDenom.name, coins⟩] ≤ w.bank b d
    rw [coinsOf_cons, coinsOf_nil]
    split
    · rename_i hd
      rw [← hd]
      exact covered
    · exact Nat.zero_le _
  obtain ⟨bank, hbank⟩ : IsOk (paySends address funded response.bankSends) := by
    refine isOk_paySends (fun send hsend => ?_) fun d => ?_
    · rw [hclosed.to_sender send hsend]
      exact hb
    · have hin := payCoins_spec hfunded address d
      rw [if_neg fun he => hb he.symm, if_pos rfl] at hin
      have hrefund := hclosed.refund d
      show coinsOf d response.sentCoins ≤ funded address d
      dsimp only at hrefund
      rw [hrefund]
      split
      · rename_i hd
        have hattached : coinsOf d c.info.funds = coins.val := by
          show coinsOf d [⟨w.pool.contract.lendingDenom.name, coins⟩] = coins.val
          rw [coinsOf_cons, coinsOf_nil, if_pos hd.symm]
          rfl
        omega
      · exact Nat.zero_le _
  refine ⟨response, ⟨pool, bank⟩, ?_, hclosed⟩
  have hok : deliver address w c = .ok (⟨pool, bank⟩, response) := by
    simp only [deliver, bind_eq_ok, ensure_eq_ok, exists_const, Prod.exists, pure_eq_ok,
      Prod.mk.injEq]
    exact ⟨⟨hb, haddress⟩, funded, hfunded, pool, response, hexecute, bank, hbank, rfl, rfl⟩
  exact hok

/-- Whoever removes all of it holds nothing. -/
theorem leave_spec {response : Response}
    (hstep : WorldStep address w { w.leaveCall deps env b with response } w₁) :
    (w₁.pool.getScaledBorrow b).val = (w.pool.getScaledBorrow b).val ∧
      (∀ a, (amountOf (w₁.pool.getBorrowerCollateral b) a).val = 0) ∧
      ∀ a, w₁.bank b a = w.bank b a + (amountOf (w.pool.getBorrowerCollateral b) a).val := by
  have hpool := hstep.spec.1
  have hd : dispatch deps w.pool env ⟨b, []⟩ (.removeCollateral (w.pool.getBorrowerCollateral b)) =
      .ok (w₁.pool, response) := execute_eq_ok hpool
  obtain ⟨_, _, held, totals, -, -, htaken, -, -, -, -, hs', hmessages⟩ := removeCollateral_spec hd
  have hsends : response.bankSends =
      [(b, (w.pool.getBorrowerCollateral b).toList.map entryCoin)] := by
    rw [bankSends_eq hmessages]
    simp
  refine ⟨?_, fun a => ?_, fun a => ?_⟩
  · rw [hs']
    rfl
  · have hamounts := htaken.amounts a
    rw [coinsOf_toList] at hamounts
    have hsaved : (amountOf (w₁.pool.getBorrowerCollateral b) a).val = (amountOf held a).val := by
      rw [hs']
      show (amountOf (PoolStorage.getBorrowerCollateral
        (PoolStorage.setBorrowerCollateral _ b held) b) a).val = _
      rw [amountOf_save, if_pos rfl]
    dsimp only at hamounts
    omega
  · have hbank := hstep.sender_bank (fun send hsend => by
      rw [hsends, List.mem_singleton] at hsend
      rw [hsend]
      rfl) a
    rw [Response.sentCoins, hsends, List.flatMap_singleton, coinsOf_toList] at hbank
    exact hbank

/-- After every run a borrower can close the position in one block: a `Repay` that covers the
closing price goes through, and after it a `RemoveCollateral` of everything.  In the end the
borrower has no debt and no collateral in the pool, has paid the closing price, whatever was
attached, and has all of the collateral back. -/
theorem borrower_can_close (hdeployed : DeployedAt t w₀.pool)
    (run : Run (WorldStep address) w₀ ts w) (deps deps' : Deps) (hb : b ≠ address)
    (haddress : env.contractAddress = address)
    (closing : ClosingAllowed w.pool env b coins r)
    (covered : coins.val ≤ w.bank b w.pool.contract.lendingDenom.name)
    (attrs : validateBorrowerAttrs deps' b w.pool.contract.borrowerRequiredAttrs = .ok ())
    (holds : (w.pool.getBorrowerCollateral b).isEmpty = false) :
    ∃ res₁ w₁ res₂ w₂,
      WorldStep address w { w.repayCall deps env b coins with response := res₁ } w₁ ∧
      WorldStep address w₁ { w₁.leaveCall deps' env b with response := res₂ } w₂ ∧
      (w₂.pool.getScaledBorrow b).val = 0 ∧
      (∀ a, (amountOf (w₂.pool.getBorrowerCollateral b) a).val = 0) ∧
      w₂.bank b w.pool.contract.lendingDenom.name +
          closingPrice (w.pool.getScaledBorrow b).val r.borrowIndex =
        w.bank b w.pool.contract.lendingDenom.name ∧
      ∀ a, a ≠ w.pool.contract.lendingDenom.name →
        w₂.bank b a = w.bank b a + (amountOf (w.pool.getBorrowerCollateral b) a).val := by
  have hreach : Reachable w.pool := ⟨t, w₀.pool, _, hdeployed, WorldStep.poolRun run⟩
  obtain ⟨res₁, w₁, hrepay, hclosed⟩ := closing.delivered hreach deps hb haddress covered
  have hrun₁ := run.snoc hrepay
  have hreach₁ : Reachable w₁.pool := hreach.step hrepay.spec.1
  -- The repayment leaves the holdings alone.
  have hsame : w₁.pool.getBorrowerCollateral b = w.pool.getBorrowerCollateral b := by
    unfold PoolStorage.getBorrowerCollateral
    rw [hclosed.collateral]
  have hallowed : RemovalAllowed w₁.pool deps' env ⟨b, []⟩ (w₁.pool.getBorrowerCollateral b) := by
    refine ⟨?_, rfl, ?_, ?_, fun x hx => ?_, fun _ => Nat.le_refl _, _, hclosed.accrued,
      hclosed.rates⟩
    · rw [hclosed.contract]
      exact closing.running
    · rw [hclosed.contract]
      exact attrs
    · rw [hsame]
      exact holds
    · have hnonzero := hreach₁.collateralLedger.holdings_noZero b x.1 x.2
        (Std.ExtTreeMap.mem_toList_iff_getElem?_eq_some.mp hx)
      simpa [Uint.isZero] using hnonzero
  have hdebt₁ : (w₁.pool.getScaledBorrow b).val = 0 := hclosed.debt
  have hok : IsOk (execute deps' w₁.pool env ⟨b, []⟩
      (.removeCollateral (w₁.pool.getBorrowerCollateral b))) := hallowed.isOk hreach₁ hdebt₁
  obtain ⟨⟨pool, response⟩, hexecute⟩ := hok
  obtain ⟨⟨w₂, res₂⟩, hdeliver⟩ := (InCustody.run hdeployed hrun₁).isOk_payout
    (c := w₁.leaveCall deps' env b) rfl ⟨hb, haddress⟩ rfl hexecute
  have hleave : WorldStep address w₁ { w₁.leaveCall deps' env b with response := res₂ } w₂ :=
    hdeliver
  obtain ⟨hdebt, hheld, hbank⟩ := leave_spec hleave
  have hpaid := hrepay.sender_bank hclosed.to_sender
  refine ⟨res₁, w₁, res₂, w₂, hrepay, hleave, ?_, hheld, ?_, fun a ha => ?_⟩
  · rw [hdebt]
    exact hdebt₁
  · have hpaid := hpaid w.pool.contract.lendingDenom.name
    have hnone := hreach.collateralLedger.lending_eq_zero b
    have henough := closing.enough
    rw [hclosed.refund, if_pos rfl] at hpaid
    rw [hbank, hsame, hnone]
    simp only [World.repayCall, coinsOf_cons, coinsOf_nil, if_true] at hpaid
    omega
  · have hpaid := hpaid a
    rw [hclosed.refund, if_neg ha] at hpaid
    simp only [World.repayCall, coinsOf_cons, coinsOf_nil, if_neg (Ne.symm ha)] at hpaid
    rw [hbank, hsame]
    omega

end

namespace Demo

/-- Alice's closing price after a year, and what the closing depends on. -/
def closingCheck (w : World) : Bool :=
  match computeEffectiveReserve w.pool (env 31536000).blockTime w.pool.contract.rateParams with
  | .ok r =>
    decide (w.pool.contract.operationalState ≠ .paused) &&
      decide (0 < (w.pool.getScaledBorrow "alice").val) &&
      (Response.new.attachRates r w.pool.contract.rateParams).isOk &&
      decide (closingPrice (w.pool.getScaledBorrow "alice").val r.borrowIndex = 541) &&
      decide (w.pool.contract.lendingDenom.name = "usd") &&
      decide (w.bank "alice" "usd" = 100500) && decide (w.bank "alice" "gold" = 400) &&
      decide (validateBorrowerAttrs (depsFor fun _ => none) "alice"
        w.pool.contract.borrowerRequiredAttrs = .ok ()) &&
      decide ((w.pool.getBorrowerCollateral "alice").isEmpty = false) &&
      decide ((amountOf (w.pool.getBorrowerCollateral "alice") "gold").val = 100)
  | .error _ => false

theorem closing_ok : deliverCheck (deps 10) (env 0) ⟨"owner", []⟩ msg bank opening
    closingCheck = true := by
  decide +kernel

end Demo

/-- Alice borrowed 500.  A year later she pays 541 out of the 1000 coins that she attaches, and
has all her gold again, although the oracle does not answer any more. -/
theorem borrower_can_close_alice :
    ∃ (w₀ : World) (ts : List (Transition World Event)) (w w₂ : World),
      DeployedAt (Demo.env 0).blockTime w₀.pool ∧
      Run (WorldStep "pool") w₀ ts w ∧ w.bank "alice" "usd" = 100500 ∧
      (w₂.pool.getScaledBorrow "alice").val = 0 ∧ w₂.bank "alice" "usd" + 541 = 100500 ∧
      w₂.bank "alice" "gold" = 500 := by
  obtain ⟨w₀, ts, w, hdeployed, -, run, -, hcheck⟩ := exists_worldRun Demo.closing_ok
  unfold Demo.closingCheck at hcheck
  split at hcheck
  · rename_i r hr
    simp only [Bool.and_eq_true, decide_eq_true_eq, isOk_iff] at hcheck
    obtain ⟨⟨⟨⟨⟨⟨⟨⟨⟨hrunning, hdebt⟩, hrates⟩, hprice⟩, hdenom⟩, hcoins⟩, hgold⟩, hattrs⟩, hholds⟩,
      hheld⟩ := hcheck
    have hrates : RatesComputed r w.pool.contract.rateParams := isOk_attachRates_iff.mp hrates
    have hclosing : ClosingAllowed w.pool (Demo.env 31536000) "alice" 1000 r :=
      ⟨hrunning, hdebt, hr, hrates, by rw [hprice]; decide⟩
    obtain ⟨-, -, -, w₂, -, -, hclosed, -, hpaid, hback⟩ := borrower_can_close
      hdeployed run (Demo.deps 10) (Demo.depsFor fun _ => none)
      (show ("alice" : Addr) ≠ "pool" by decide)
      (show (Demo.env 31536000).contractAddress = "pool" from rfl) hclosing
      (by rw [hdenom, hcoins]; decide) hattrs hholds
    rw [hdenom, hprice, hcoins] at hpaid
    have hgold₂ := hback "gold" (by rw [hdenom]; decide)
    rw [hgold, hheld] at hgold₂
    exact ⟨w₀, ts, w, w₂, hdeployed, run, hcoins, hclosed, hpaid, hgold₂⟩
  · cases hcheck

end DemocratizedPrime
