import DemocratizedPrime.Pool.Invariants.ConfigSafety
import DemocratizedPrime.Pool.Reporting
import DemocratizedPrime.Pool.Safety.CommitRules
import DemocratizedPrime.Pool.Safety.ExitFairness

/-!
# What a Borrow depends on

`borrow` is a chain of checks, with the health of the loan among them.  `BorrowAllowed` is
the rest of the chain, and `BorrowLtv` says which ratio the health check computes.

* `BorrowAllowed.allErrors`: where the rest of the chain goes through, a Borrow has only the
  errors of its prices and of its health.
* `borrow_isOk_iff`: a Borrow succeeds exactly when the rest goes through and the ratio is at
  most the margin rate.
-/

namespace DemocratizedPrime

open Result

variable {s : PoolStorage} {deps : Deps} {env : Env} {info : MessageInfo} {amount : Uint128}

/-- The cash of the block covers a loan of `b`, and the books can take it. -/
structure LoanRecorded (s : PoolStorage) (env : Env) (b : Addr) (amount : Uint128)
    (r : ReserveStateV1) (t : ReserveTotals) (debt : DebtAfterBorrow) (total : Uint128) :
    Prop where
  accrued : AccruedTo s env.blockTime r
  totals : reserveTotalsAndCashU128 r = .ok t
  cash : amount.val ≤ t.cash.val
  debt_eq : debtAfterBorrow (s.getScaledBorrow b) amount r.borrowIndex = .ok debt
  total_eq : r.totalScaledBorrow.checkedAdd debt.scaledDelta = some total
  borrow : IsOk ({ r with totalScaledBorrow := total } : ReserveStateV1).totalBorrow
  rates : RatesComputed { r with totalScaledBorrow := total } s.contract.rateParams

/-- What a Borrow depends on, besides the health of the loan. -/
structure BorrowAllowed (s : PoolStorage) (deps : Deps) (env : Env) (info : MessageInfo)
    (amount : Uint128) : Prop where
  running : s.contract.operationalState ≠ .paused
  unfrozen : s.contract.operationalState ≠ .frozen
  positive : amount.val ≠ 0
  minimum : s.contract.minBorrow.val ≤ amount.val
  funds : info.funds = []
  attrs : validateBorrowerAttrs deps info.sender s.contract.borrowerRequiredAttrs = .ok ()
  collateral : (s.getBorrowerCollateral info.sender).isEmpty = false
  recorded : ∃ r t debt total, LoanRecorded s env info.sender amount r t debt total

/-- The ratio that a Borrow of `b` computes: of the debt that it records, at the prices that it
gets for the holdings. -/
def BorrowLtv (s : PoolStorage) (deps : Deps) (env : Env) (b : Addr) (amount : Uint128)
    (ltv : Decimal256) : Prop :=
  ∃ r debt prices, AccruedTo s env.blockTime r ∧
    debtAfterBorrow (s.getScaledBorrow b) amount r.borrowIndex = .ok debt ∧
    getAssetPricesForBorrower deps env.blockTime s.contract (s.getBorrowerCollateral b) =
      .ok prices ∧
    calculateLtv s.contract s.contract.supportedCollateralAssets prices
      (s.getBorrowerCollateral b) debt.debtAfter = .ok ltv

/-- Where the rest goes through, what can go wrong is the prices, the valuation, and a ratio
that is too high. -/
theorem BorrowAllowed.allErrors {P : ContractError → Prop} (hreach : Reachable s)
    (h : BorrowAllowed s deps env info amount)
    (hprices : AllErrors P (getAssetPricesForBorrower deps env.blockTime s.contract
      (s.getBorrowerCollateral info.sender)))
    (hltv : ∀ r debt prices, AccruedTo s env.blockTime r →
      debtAfterBorrow (s.getScaledBorrow info.sender) amount r.borrowIndex = .ok debt →
      getAssetPricesForBorrower deps env.blockTime s.contract
        (s.getBorrowerCollateral info.sender) = .ok prices →
      AllErrors P (calculateLtv s.contract s.contract.supportedCollateralAssets prices
        (s.getBorrowerCollateral info.sender) debt.debtAfter))
    (hmargin : ∀ ltv, BorrowLtv s deps env info.sender amount ltv →
      ltv ≤ s.contract.marginRate) :
    AllErrors P (execute deps s env info (.borrow amount)) := by
  obtain ⟨r, t, debt, total, hr, ht, hcash, hdebt, htotal, ⟨b, hb⟩, hrates⟩ := h.recorded
  refine AllErrors.ensure (.inr h.running) (AllErrors.ensure (.inl h.unfrozen) ?_)
  show AllErrors P (borrow deps s env info amount)
  refine AllErrors.ensure h.positive (AllErrors.ensure h.minimum (AllErrors.ensure h.funds ?_))
  refine AllErrors.bind h.attrs ?_
  refine AllErrors.bind
    (updateReserveIndexes_eq_ok (x := (s.setReserveStateV1 r, r)).mpr ⟨hr, rfl⟩) ?_
  refine AllErrors.bind ht (AllErrors.ensure hcash (AllErrors.ensure h.collateral ?_))
  refine AllErrors.bind hdebt (allErrors_bind.mpr ⟨hprices, fun prices hp => ?_⟩)
  refine allErrors_bind.mpr ⟨?_, fun position hposition => ?_⟩
  · exact allErrors_bind.mpr ⟨hltv r debt prices hr hdebt hp, fun _ _ => allErrors_pure⟩
  · -- The ratio is healthy, and the books take the loan.
    simp only [getBorrowerHealth, bind_eq_ok, pure_eq_ok] at hposition
    obtain ⟨ltv, hcomputed, rfl⟩ := hposition
    have hhealthy : getHealthFromLtv s.contract ltv = .healthy :=
      (getHealthFromLtv_healthy_iff hreach.configSafety.rates.margin_lt).mpr
        (hmargin ltv ⟨r, debt, prices, hr, hdebt, hp, hcomputed⟩)
    refine AllErrors.bind (a := ()) (validateBorrowerIsHealthy_eq_ok.mpr hhealthy) ?_
    refine AllErrors.bind (okOr_eq_ok.mpr htotal) (AllErrors.bind hb ?_)
    -- A rule to commit the loan comes with a market.
    have hmarket : some (s.getBorrowerRequireCommit info.sender) = some true →
        s.contract.commitMarketId.isSome = true :=
      fun hrule => hreach.marketSet info.sender (Or.inl (Option.some.inj hrule))
    have hsame : (some (s.getBorrowerRequireCommit info.sender) == some true) =
        s.getBorrowerRequireCommit info.sender := by
      cases s.getBorrowerRequireCommit info.sender <;> rfl
    have hcommit (res : Response) := addCommitMessage_isOk hmarket res env.contractAddress
      info.sender "borrow" [⟨s.contract.lendingDenom.name, amount⟩]
    rw [hsame] at hcommit
    obtain ⟨res, hres⟩ := hcommit (Response.new.addMessage
        (.bankSend info.sender [⟨s.contract.lendingDenom.name, amount⟩])
      |>.addText "action" "borrow"
      |>.addText "borrower" info.sender
      |>.addText "amount" (toString amount)
      |>.addText "scaled_amount" (toString debt.scaledDelta))
    have hattached : IsOk (res.attachRates { r with totalScaledBorrow := total }
        s.contract.rateParams) := isOk_attachRates_iff.mpr hrates
    obtain ⟨res', hres'⟩ := hattached
    exact AllErrors.bind hres (AllErrors.bind hres' allErrors_pure)

/-- What a Borrow that succeeds has passed. -/
theorem borrowAllowed_of_isOk {s' : PoolStorage} {res : Response}
    (h : execute deps s env info (.borrow amount) = .ok (s', res)) :
    BorrowAllowed s deps env info amount ∧
      ∃ ltv, BorrowLtv s deps env info.sender amount ltv ∧
        getHealthFromLtv s.contract ltv = .healthy := by
  simp only [execute, bind_eq_ok, ensure_eq_ok, exists_const] at h
  obtain ⟨hpaused, hfrozen, hd⟩ := h
  have hborrow : borrow deps s env info amount = .ok (s', res) := hd
  simp only [borrow, bind_eq_ok, Prod.exists, updateReserveIndexes_eq_ok, ensure_eq_ok,
    exists_const, okOr_eq_ok, validateBorrowerIsHealthy_eq_ok, getBorrowerHealth,
    pure_eq_ok] at hborrow
  obtain ⟨hpositive, hminimum, hfunds, ⟨⟩, hattrs, _, r, ⟨hr, rfl⟩, t, ht, hcash, hcollateral,
    debt, hdebt, prices, hprices, _, ⟨ltv, hltv, rfl⟩, hhealthy, total, htotal, b, hb, _, -, _,
    hrates, -⟩ := hborrow
  refine ⟨⟨hpaused.resolve_left (by exact Bool.false_ne_true),
    hfrozen.resolve_right (by exact Bool.noConfusion), hpositive, hminimum, hfunds, hattrs,
    hcollateral, r, t, debt, total, hr, ht, hcash, hdebt, htotal, ⟨b, hb⟩,
    isOk_attachRates_iff.mp ⟨_, hrates⟩⟩, ltv, ⟨r, debt, prices, hr, hdebt, hprices, hltv⟩,
    hhealthy⟩

/-- The ratio is a function of the state. -/
theorem BorrowLtv.unique {b : Addr} {ltv ltv' : Decimal256}
    (h : BorrowLtv s deps env b amount ltv) (h' : BorrowLtv s deps env b amount ltv') :
    ltv = ltv' := by
  obtain ⟨r, debt, prices, hr, hdebt, hprices, hltv⟩ := h
  obtain ⟨r', debt', prices', hr', hdebt', hprices', hltv'⟩ := h'
  obtain rfl : r = r' := Except.ok.inj (hr.symm.trans hr')
  obtain rfl : debt = debt' := Except.ok.inj (hdebt.symm.trans hdebt')
  obtain rfl : prices = prices' := Except.ok.inj (hprices.symm.trans hprices')
  exact Except.ok.inj (hltv.symm.trans hltv')

/-- A Borrow succeeds exactly when the rest goes through, and the ratio is computed and is at
most the margin rate. -/
theorem borrow_isOk_iff (hreach : Reachable s) :
    IsOk (execute deps s env info (.borrow amount)) ↔
      BorrowAllowed s deps env info amount ∧
        ∃ ltv, BorrowLtv s deps env info.sender amount ltv ∧ ltv ≤ s.contract.marginRate := by
  have hrates := hreach.configSafety.rates.margin_lt
  constructor
  · rintro ⟨⟨s', res⟩, h⟩
    obtain ⟨hallowed, ltv, hltv, hhealthy⟩ := borrowAllowed_of_isOk h
    exact ⟨hallowed, ltv, hltv, (getHealthFromLtv_healthy_iff hrates).mp hhealthy⟩
  · rintro ⟨hallowed, ltv, hltv, hmargin⟩
    obtain ⟨r, debt, prices, hr, hdebt, hprices, hcomputed⟩ := hltv
    have hnone : AllErrors (fun _ => False) (execute deps s env info (.borrow amount)) := by
      refine hallowed.allErrors (P := fun _ => False) hreach ?_ ?_ ?_
      · rw [hprices]
        exact allErrors_ok
      · intro r' debt' prices' hr' hdebt' hprices'
        obtain rfl : r = r' := Except.ok.inj (hr.symm.trans hr')
        obtain rfl : debt = debt' := Except.ok.inj (hdebt.symm.trans hdebt')
        obtain rfl : prices = prices' := Except.ok.inj (hprices.symm.trans hprices')
        rw [hcomputed]
        exact allErrors_ok
      · intro ltv' hltv'
        rwa [hltv'.unique ⟨r, debt, prices, hr, hdebt, hprices, hcomputed⟩]
    exact hnone.isOk (hnone.mono fun _ hfalse => hfalse.elim)

end DemocratizedPrime
