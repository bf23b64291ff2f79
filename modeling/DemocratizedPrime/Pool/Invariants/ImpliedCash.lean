import DemocratizedPrime.Pool.AccrualDust
import DemocratizedPrime.Pool.Invariants.CashCap

/-!
# Implied cash

What the lenders and the protocol are owed, less the debt and the deficit, is the cash that
the books imply.  In exact amounts it is what the pool holds less its surplus, so whatever
rounding leaves to the pool is missing here, and with little cash the implied cash is
negative.

* `PoolStep.cashFloor_ge`: what a message may cost, after its accrual.
* `implied_cash_ge`: along every run the implied cash stays above minus one, less what the
  roundings of the steps may leave to nobody.
* `implied_cash_negative`: with all the cash lent out, one accrual makes it negative.
-/

namespace DemocratizedPrime

open Result Decimal256 TreeMap Transitions

/-- The value of scaled units, rounded down. -/
def wholeUnits (scaled : Uint128) (index : Decimal256) : Nat :=
  scaled.val * index.atomics / decimalFractional

/-- The implied cash in whole units, each total rounded down. -/
def impliedCash (r : ReserveStateV1) : ℤ :=
  wholeUnits r.totalScaledLiquidity r.liquidityIndex + r.accruedReserve.val -
    wholeUnits r.totalScaledBorrow r.borrowIndex - r.deficitUnderlying.val

/-- The implied cash in exact amounts. -/
def exactCash (r : ReserveStateV1) : ℚ :=
  r.claims + r.accruedReserve.val - r.debt - r.deficitUnderlying.val

/-- Rounding both totals down moves the implied cash by less than one unit. -/
theorem exactCash_lt (r : ReserveStateV1) : exactCash r < impliedCash r + 1 := by
  have hclaims : r.claims < wholeUnits r.totalScaledLiquidity r.liquidityIndex + 1 :=
    toRat_lt_floored rfl
  have hdebt : wholeUnits r.totalScaledBorrow r.borrowIndex ≤ r.debt := floored_le_toRat rfl
  unfold exactCash impliedCash
  push_cast
  linarith

theorem floor_exactCash_le (r : ReserveStateV1) : ⌊exactCash r⌋ ≤ impliedCash r := by
  have hlt := exactCash_lt r
  have hfloor : ⌊exactCash r⌋ < impliedCash r + 1 := by
    rw [Int.floor_lt]
    push_cast
    exact hlt
  omega

/-! ## The accrual -/

namespace AccrualTerms

theorem slack_nonneg (x : AccrualTerms) (r : ReserveStateV1) : 0 ≤ x.slack r := by
  have hulp := ulp_pos.le
  have htf := toRat_nonneg x.timeFraction
  have hbr := toRat_nonneg x.borrowerRate
  have hc := r.claims_nonneg
  have hd := r.debt_nonneg
  have hdecimals : 0 ≤ (r.claims + r.totalScaledLiquidity.val + x.timeFraction.toRat) * ulp := by
    positivity
  have hrates : 0 ≤ (if r.claims = 0 then r.debt * x.borrowerRate.toRat
      else ((2 * x.borrowerRate.toRat + 1) * r.claims + r.debt) * ulp) *
        x.timeFraction.toRat := by
    apply mul_nonneg _ htf
    split <;> positivity
  unfold slack
  linarith

end AccrualTerms

/-- What an accrual may leave to nobody, and what of its fee no longer fits the counter. -/
def slackTo (s : PoolStorage) (t : Timestamp) : ℚ :=
  if timeElapsedSeconds s.reserve.lastUpdatedAt t = 0 then 0
  else match accrualTerms s.reserve s.contract.rateParams
      (timeElapsedSeconds s.reserve.lastUpdatedAt t) with
    | .ok x => x.slack s.reserve +
        (s.reserve.accruedReserve.val + x.fee.atomics / decimalFractional - (2 ^ 128 - 1) : Nat)
    | .error _ => 0

theorem slackTo_nonneg (s : PoolStorage) (t : Timestamp) : 0 ≤ slackTo s t := by
  unfold slackTo
  split
  · exact le_refl _
  · split
    · rename_i x _
      exact add_nonneg (x.slack_nonneg _) (Nat.cast_nonneg _)
    · exact le_refl _

/-- An accrual lowers the exact implied cash by at most its slack. -/
theorem AccruedTo.exactCash_ge {s : PoolStorage} {t : Timestamp} {r : ReserveStateV1}
    (h : AccruedTo s t r) : exactCash s.reserve - slackTo s t ≤ exactCash r := by
  unfold slackTo
  by_cases he : timeElapsedSeconds s.reserve.lastUpdatedAt t = 0
  · rw [if_pos he, h.sameSecond he, sub_zero]
  · obtain ⟨x, fee, hx, hfee, hacc, hshare⟩ := accrueInterest_dust (h.charged he) he
    have hleft := (AccrualTerms.valid hx).left_le
    have hbooked := Uint.saturatingAdd_val s.reserve.accruedReserve fee
    rw [← hacc, hfee] at hbooked
    have hfits : s.reserve.accruedReserve.val + fee.val ≤ r.accruedReserve.val +
        (s.reserve.accruedReserve.val + x.fee.atomics / decimalFractional - (2 ^ 128 - 1)) := by
      omega
    have hcast : (s.reserve.accruedReserve.val : ℚ) + fee.val ≤ r.accruedReserve.val +
        (s.reserve.accruedReserve.val + x.fee.atomics / decimalFractional -
          (2 ^ 128 - 1) : Nat) := by
      exact_mod_cast hfits
    have hdeficit : (r.deficitUnderlying.val : ℚ) = s.reserve.deficitUnderlying.val := by
      rw [h.deficitUnderlying]
    rw [if_neg he, hx]
    unfold exactCash
    unfold protocolShare at hshare
    dsimp only
    linarith

/-! ## The message -/

/-- How far the coins that the pool is told it holds exceed the implied cash. -/
def bankExcess (s : PoolStorage) (e : Event) : ℚ :=
  match computeEffectiveReserve s e.env.blockTime s.contract.rateParams,
    e.deps.balance e.env.contractAddress s.contract.lendingDenom.name with
  | .ok r, .ok bank => (max 0 (bank.val - impliedCash r) : ℤ)
  | _, _ => 0

/-- What a message may cost the implied cash after its accrual: a loan is recorded in whole
scaled units, a withdrawal of all leaves a fraction, a write-off rounds the loss up and the
index down, and the reserve is paid from all the coins that there are. -/
def messageSlack (s : PoolStorage) (e : Event) (s' : PoolStorage) : ℚ :=
  match e.msg with
  | .borrow _ => s'.reserve.borrowIndex.toRat
  | .liquidate borrower _ =>
    if (s'.getScaledBorrow (trim borrower)).val = 0 then
      1 + s'.reserve.totalScaledLiquidity.val * ulp
    else 0
  | .socializeDeficit _ => s'.reserve.totalScaledLiquidity.val * ulp
  | .withdrawReserve _ => bankExcess s e
  | m => if m.withdrawsAll then 1 else 0

theorem bankExcess_nonneg (s : PoolStorage) (e : Event) : 0 ≤ bankExcess s e := by
  unfold bankExcess
  split
  · exact Int.cast_nonneg (le_max_left _ _)
  · exact le_refl _

theorem messageSlack_nonneg (s : PoolStorage) (e : Event) (s' : PoolStorage) :
    0 ≤ messageSlack s e s' := by
  have hdust : 0 ≤ (s'.reserve.totalScaledLiquidity.val : ℚ) * ulp :=
    mul_nonneg (Nat.cast_nonneg _) ulp_pos.le
  unfold messageSlack
  split
  · exact toRat_nonneg _
  · split
    · linarith
    · exact le_refl _
  · exact hdust
  · exact bankExcess_nonneg s e
  · split
    · exact zero_le_one
    · exact le_refl _

/-- The slack of a liquidation covers what a write-off costs, since nothing is left of the
debt then. -/
theorem writeOff_le_messageSlack {s s' : PoolStorage} {e : Event} {borrower : String}
    {seize : Amounts} {badDebt : Bool} (hmsg : e.msg = .liquidate borrower seize)
    (hclosed : badDebt = true → (s'.getScaledBorrow (trim borrower)).val = 0) :
    (if badDebt = true then 1 + s'.reserve.totalScaledLiquidity.val * ulp else 0) ≤
      messageSlack s e s' := by
  cases badDebt with
  | false =>
    rw [if_neg Bool.false_ne_true]
    exact messageSlack_nonneg s e s'
  | true =>
    unfold messageSlack
    rw [hmsg]
    dsimp only
    rw [if_pos rfl, if_pos (hclosed rfl)]

theorem messageSlack_of_withdrawal {s s' : PoolStorage} {e : Event}
    (h : e.msg.isWithdrawal = true) :
    messageSlack s e s' = if e.msg.withdrawsAll then 1 else 0 := by
  unfold messageSlack
  cases hm : e.msg with
  | borrow => rw [hm] at h; cases h
  | liquidate => rw [hm] at h; cases h
  | socializeDeficit => rw [hm] at h; cases h
  | withdrawReserve => rw [hm] at h; cases h
  | _ => rfl

/-- The exact implied cash as far as it is below minus one, which is where a payment that
the cash cap lets through may bring it. -/
def cashFloor (r : ReserveStateV1) : ℚ := min (exactCash r) (-1)

theorem cashFloor_of_loss {r r' : ReserveStateV1} {slack : ℚ} (hslack : 0 ≤ slack)
    (h : exactCash r - slack ≤ exactCash r') : cashFloor r - slack ≤ cashFloor r' := by
  have hle := min_le_left (exactCash r) (-1)
  have hone := min_le_right (exactCash r) (-1)
  apply le_min
  · exact le_trans (sub_le_sub_right hle slack) h
  · unfold cashFloor
    linarith

theorem cashFloor_of_reset {r r' : ReserveStateV1} {slack : ℚ} (hslack : 0 ≤ slack)
    (h : -1 - slack ≤ exactCash r') : cashFloor r - slack ≤ cashFloor r' := by
  have hone := min_le_right (exactCash r) (-1)
  unfold cashFloor
  apply le_min
  · linarith
  · linarith

/-- A payment of at most the free cash and `slack` costs the implied cash at most that
slack. -/
theorem cashFloor_of_capped {r r' : ReserveStateV1} {t : ReserveTotals} {v slack : ℚ}
    (ht : reserveTotalsAndCashU128 r = .ok t) (hslack : 0 ≤ slack)
    (hvalue : v ≤ t.cash.val + slack) (hcash : exactCash r' = exactCash r - v) :
    cashFloor r - slack ≤ cashFloor r' := by
  by_cases hzero : t.cash.val = 0
  · have hnone : (t.cash.val : ℚ) = 0 := by exact_mod_cast hzero
    apply cashFloor_of_loss hslack
    rw [hcash]
    linarith
  · have hfree := freeCash_lt ht hzero
    have hreserve : (0 : ℚ) ≤ r.accruedReserve.val := Nat.cast_nonneg _
    apply cashFloor_of_reset hslack
    rw [hcash, exactCash]
    linarith

/-- A withdrawal burns units that are worth the payment, or a fraction more. -/
theorem Withdrawal.cashFloor_ge {s s' : PoolStorage} {e : Event} {r : ReserveStateV1}
    {t : ReserveTotals} {burned paid : Uint128} (h : Withdrawal s e s' r t burned paid) :
    cashFloor r - (if e.msg.withdrawsAll then 1 else 0) ≤ cashFloor s'.reserve := by
  obtain ⟨total, htotal, rfl⟩ := h.reserve
  have hscaled : (total.val : ℚ) + burned.val = r.totalScaledLiquidity.val := by
    exact_mod_cast htotal
  apply cashFloor_of_capped h.totals_eq (v := burned.val * r.liquidityIndex.toRat)
  · split
    · exact zero_le_one
    · exact le_refl _
  · have hvalue := toRat_lt_floored h.paid_eq
    have hpaid : (paid.val : ℚ) ≤ t.cash.val := by exact_mod_cast h.paid_le
    rcases h.burned_le with hall | hunits
    · rw [if_pos hall]
      linarith
    · split <;> linarith
  · show (total.val : ℚ) * r.liquidityIndex.toRat + r.accruedReserve.val - r.debt -
      r.deficitUnderlying.val = exactCash r - burned.val * r.liquidityIndex.toRat
    unfold exactCash ReserveStateV1.claims
    rw [← hscaled]
    ring

/-- A loan is recorded with at most one scaled unit more than it is worth. -/
theorem cashFloor_loan {r : ReserveStateV1} {t : ReserveTotals} {amount delta total : Uint128}
    (ht : reserveTotalsAndCashU128 r = .ok t) (hcash : amount.val ≤ t.cash.val)
    (hdelta : underlyingToScaledBorrowCeil amount r.borrowIndex = .ok delta)
    (htotal : total.val = r.totalScaledBorrow.val + delta.val) :
    cashFloor r - r.borrowIndex.toRat ≤ cashFloor { r with totalScaledBorrow := total } := by
  obtain ⟨hi, hdelta⟩ := underlyingToScaledBorrowCeil_eq hdelta
  have hdebt := debt_lt_loan hi hdelta
  have hamount : (amount.val : ℚ) ≤ t.cash.val := by exact_mod_cast hcash
  apply cashFloor_of_capped ht (toRat_nonneg _) (v := delta.val * r.borrowIndex.toRat)
  · linarith
  · show r.claims + r.accruedReserve.val - (total.val : ℚ) * r.borrowIndex.toRat -
      r.deficitUnderlying.val = exactCash r - delta.val * r.borrowIndex.toRat
    unfold exactCash ReserveStateV1.debt
    rw [htotal]
    push_cast
    ring

/-- More claims, more implied cash. -/
theorem exactCash_lend {r : ReserveStateV1} {total minted : Uint128}
    (htotal : total.val = r.totalScaledLiquidity.val + minted.val) :
    exactCash { r with totalScaledLiquidity := total } =
      exactCash r + minted.val * r.liquidityIndex.toRat := by
  show (total.val : ℚ) * r.liquidityIndex.toRat + r.accruedReserve.val - r.debt -
    r.deficitUnderlying.val = _
  unfold exactCash ReserveStateV1.claims
  rw [htotal]
  push_cast
  ring

/-- Less debt, more implied cash. -/
theorem exactCash_repay {r : ReserveStateV1} {total : Uint128} {cancelled : Nat}
    (htotal : total.val + cancelled = r.totalScaledBorrow.val) :
    exactCash { r with totalScaledBorrow := total } =
      exactCash r + cancelled * r.borrowIndex.toRat := by
  show r.claims + r.accruedReserve.val - (total.val : ℚ) * r.borrowIndex.toRat -
    r.deficitUnderlying.val = _
  unfold exactCash ReserveStateV1.debt
  rw [← htotal]
  push_cast
  ring

/-- Cutting the claims for a loss costs the loss, and at most one `ulp` of the index more. -/
theorem exactCash_haircut {r r' : ReserveStateV1} {loss : Uint128}
    (h : applyProRataLiquidityIndexHaircut r loss = .ok r') :
    exactCash r - loss.val - r.totalScaledLiquidity.val * ulp ≤ exactCash r' := by
  have hclaims := le_haircut_claims h
  have hframe := applyHaircut_frame h
  have hdebt : r'.debt = r.debt := by
    rw [hframe]
    rfl
  unfold exactCash
  rw [hdebt, show r'.accruedReserve = r.accruedReserve by rw [hframe],
    show r'.deficitUnderlying = r.deficitUnderlying by rw [hframe]]
  linarith

/-- A booked liquidation costs nothing, or a unit and the index's last decimal when the rest
of the debt is written off. -/
theorem exactCash_liquidate {c : ContractStateV1} {r r' : ReserveStateV1} {p : LiquidationPlan}
    (hloss : badDebtLoss p.badDebt p.newScaledDebt r.borrowIndex = .ok p.badDebtUnderlying)
    (h : bookRepayment c r p = .ok r') :
    exactCash r - (if p.badDebt = true then 1 + r'.totalScaledLiquidity.val * ulp else 0) ≤
      exactCash r' := by
  have hbi := toRat_nonneg r.borrowIndex
  have hrepaid : 0 ≤ (p.scaledRepay.val : ℚ) * r.borrowIndex.toRat :=
    mul_nonneg (Nat.cast_nonneg _) hbi
  obtain ⟨total, ⟨hbad, htotal, rfl⟩ | ⟨hbad, htotal, hbooked⟩⟩ := bookRepayment_spec h
  · rw [exactCash_repay htotal, hbad]
    simp only [Bool.false_eq_true, if_false]
    linarith
  · rw [if_pos hbad]
    rw [badDebtLoss, hbad, if_pos rfl] at hloss
    have hceil := ceiled_lt_toRat (scaledToUnderlyingBorrowCeil_eq hloss)
    have hcancelled : exactCash { r with totalScaledBorrow := total } = exactCash r +
        p.scaledRepay.val * r.borrowIndex.toRat + p.newScaledDebt.val * r.borrowIndex.toRat := by
      rw [exactCash_repay htotal]
      push_cast
      ring
    rcases hbooked with ⟨-, hcut⟩ | ⟨-, hdeficit, hr'⟩
    · have hcost := exactCash_haircut hcut
      have hsame : r'.totalScaledLiquidity = r.totalScaledLiquidity := by
        rw [applyHaircut_frame hcut]
      rw [hcancelled] at hcost
      rw [hsame]
      change _ - _ - (r.totalScaledLiquidity.val : ℚ) * ulp ≤ _ at hcost
      linarith
    · have hdust : 0 ≤ (r'.totalScaledLiquidity.val : ℚ) * ulp :=
        mul_nonneg (Nat.cast_nonneg _) ulp_pos.le
      have hbooks : exactCash r' =
          exactCash { r with totalScaledBorrow := total } - p.badDebtUnderlying.val := by
        rw [hr']
        show r.claims + r.accruedReserve.val - (total.val : ℚ) * r.borrowIndex.toRat -
            r'.deficitUnderlying.val =
          r.claims + r.accruedReserve.val - (total.val : ℚ) * r.borrowIndex.toRat -
            r.deficitUnderlying.val - _
        rw [hdeficit]
        push_cast
        ring
      rw [hbooks, hcancelled]
      linarith

/-- The reserve is paid from the coins, so what it takes beyond the implied cash are coins
that the books do not count. -/
theorem cashFloor_withdrawReserve {s s' : PoolStorage} {e : Event} {recipient : Option String}
    (h : withdrawReserve e.deps s e.env e.info recipient = .ok (s', e.response)) :
    ∃ r, AccruedTo s e.env.blockTime r ∧
      cashFloor r - bankExcess s e ≤ cashFloor s'.reserve := by
  obtain ⟨r, toAddress, t, bank, backed, pay, left, -, -, hr, hzero, ht, hbank, hbacked, hpay, -,
    hleft, rfl, -⟩ := withdrawReserve_spec h
  obtain ⟨hl, hb, -⟩ := reserveTotalsAndCashU128_eq ht
  refine ⟨r, hr, cashFloor_of_reset (bankExcess_nonneg s e) ?_⟩
  have himplied : impliedCash r = t.totalLiquidity.val + r.accruedReserve.val - t.totalBorrow.val
      := by
    unfold impliedCash wholeUnits
    rw [← hl, ← hb, hzero]
    omega
  have hexcess : bankExcess s e = (max 0 (bank.val - impliedCash r) : ℤ) := by
    have haccrued : computeEffectiveReserve s e.env.blockTime s.contract.rateParams = .ok r := hr
    unfold bankExcess
    rw [haccrued, hbank]
  have hnat : (0 : ℤ) ≤ t.totalLiquidity.val + left.val - t.totalBorrow.val +
      max 0 (bank.val - impliedCash r) := by
    rw [himplied]
    omega
  have hcast : (0 : ℚ) ≤ t.totalLiquidity.val + left.val - t.totalBorrow.val +
      (max 0 (bank.val - impliedCash r) : ℤ) := by exact_mod_cast hnat
  have hclaims : (t.totalLiquidity.val : ℚ) ≤ r.claims := floored_le_toRat hl
  have hdebt : r.debt < t.totalBorrow.val + 1 := toRat_lt_floored hb
  have hdeficit : (r.deficitUnderlying.val : ℚ) = 0 := by exact_mod_cast hzero
  rw [hexcess]
  show _ ≤ r.claims + (left.val : ℚ) - r.debt - r.deficitUnderlying.val
  rw [hdeficit]
  linarith

/-- What a message does to the implied cash, after the accrual of its step. -/
theorem PoolStep.cashFloor_ge {s s' : PoolStorage} {e : Event} (h : PoolStep s e s') :
    ∃ r, Accrual s e r ∧
      cashFloor r - messageSlack s e s' ≤ cashFloor s'.reserve := by
  have free {r : ReserveStateV1} (hr : Accrual s e r)
      (hcash : exactCash r ≤ exactCash s'.reserve) :
      ∃ r, Accrual s e r ∧
        cashFloor r - messageSlack s e s' ≤
          cashFloor s'.reserve := by
    have hslack := messageSlack_nonneg s e s'
    exact ⟨r, hr, cashFloor_of_loss hslack (by linarith)⟩
  have hd : dispatch e.deps s e.env e.info e.msg = .ok (s', e.response) := execute_eq_ok h
  cases h.effect with
  | neutral msg _ change =>
    refine free (.of_same (ExecuteMsg.accruesInterest_of_isNeutral msg)) ?_
    rw [change.reserve]
  | updateSupportedCollateral msg => exact free (.of_same (by rw [msg]; rfl)) (le_refl _)
  | updateContractConfig msg => exact free (.of_same (by rw [msg]; rfl)) (le_refl _)
  | updateRateParams msg _ _ accrued =>
    exact free (.of_accrued (by rw [msg]; rfl) accrued) (le_refl _)
  | @lend amount minted total r msg _ _ accrued _ _ total_eq =>
    refine free (.of_accrued (by rw [msg]; rfl) accrued) ?_
    have hminted : 0 ≤ (minted.val : ℚ) * r.liquidityIndex.toRat :=
      mul_nonneg (Nat.cast_nonneg _) (toRat_nonneg _)
    show _ ≤ exactCash { r with totalScaledLiquidity := total }
    rw [exactCash_lend total_eq]
    linarith
  | burn msg =>
    obtain ⟨r, t, burned, paid, hw⟩ := h.withdrawal msg
    refine ⟨r, .of_accrued (ExecuteMsg.accruesInterest_of_isWithdrawal msg) hw.accrued, ?_⟩
    rw [messageSlack_of_withdrawal msg]
    exact hw.cashFloor_ge
  | @borrow amount total debt r msg _ _ accrued debt_eq total_eq =>
    obtain ⟨r₁, t, hr₁, ht, hcash, -⟩ := h.loan msg
    obtain rfl : r = r₁ := Except.ok.inj (Eq.trans (Eq.symm accrued) hr₁)
    refine ⟨r, .of_accrued (by rw [msg]; rfl) accrued, ?_⟩
    unfold messageSlack
    rw [msg]
    exact cashFloor_loan ht hcash (debtAfterBorrow_eq debt_eq).1 total_eq
  | @repay amount payoff cancelled left total r msg _ _ accrued _ _ _ total_eq =>
    refine free (.of_accrued (by rw [msg]; rfl) accrued) ?_
    have hcancelled : 0 ≤ (cancelled.val : ℚ) * r.borrowIndex.toRat :=
      mul_nonneg (Nat.cast_nonneg _) (toRat_nonneg _)
    show _ ≤ exactCash { r with totalScaledBorrow := total }
    rw [exactCash_repay total_eq]
    linarith
  | addCollateral msg => exact free (.of_same (by rw [msg]; rfl)) (le_refl _)
  | removeCollateral msg _ _ accrued =>
    exact free (.of_accrued (by rw [msg]; rfl) accrued) (le_refl _)
  | @liquidate borrower seize outgoing totals t p r' offers msg target plan booked =>
    refine ⟨t.reserve, .of_accrued (by rw [msg]; rfl) target.accrued,
      cashFloor_of_loss (messageSlack_nonneg _ _ _) ?_⟩
    have hcost := exactCash_liquidate plan.loss booked
    refine le_trans (sub_le_sub_left (writeOff_le_messageSlack msg fun hbad => ?_) _) hcost
    change ((s.setScaledBorrow t.borrower
      (if p.badDebt then 0 else p.newScaledDebt)).getScaledBorrow (trim borrower)).val = 0
    rw [PoolStorage.getScaledBorrow_set, target.borrower_eq, if_pos rfl, if_pos hbad]
    rfl
  | @eliminateFromReserve r funding deficit accruedReserve clear msg _ _ accrued deficit_eq
      reserve_eq =>
    refine free (.of_accrued (by rw [msg]; rfl) accrued) ?_
    show r.claims + (r.accruedReserve.val : ℚ) - r.debt - r.deficitUnderlying.val ≤
      r.claims + (accruedReserve.val : ℚ) - r.debt - deficit.val
    rw [← deficit_eq, ← reserve_eq]
    push_cast
    linarith
  | @eliminateFromBank r funding deficit received applied msg _ _ accrued _ deficit_eq =>
    refine free (.of_accrued (by rw [msg]; rfl) accrued) ?_
    have hle : (deficit.val : ℚ) ≤ r.deficitUnderlying.val := by
      rw [← deficit_eq]
      exact_mod_cast Nat.le_add_right _ _
    show r.claims + (r.accruedReserve.val : ℚ) - r.debt - r.deficitUnderlying.val ≤
      r.claims + (r.accruedReserve.val : ℚ) - r.debt - deficit.val
    linarith
  | @socializeDeficit maxAmount amount deficit r cut msg _ _ accrued _ haircut deficit_eq =>
    refine ⟨r, .of_accrued (by rw [msg]; rfl) accrued,
      cashFloor_of_loss (messageSlack_nonneg _ _ _) ?_⟩
    have hcost := exactCash_haircut haircut
    have hsame : cut.totalScaledLiquidity = r.totalScaledLiquidity := by
      rw [applyHaircut_frame haircut]
    unfold messageSlack
    rw [msg]
    show exactCash r - (cut.totalScaledLiquidity.val : ℚ) * ulp ≤
      cut.claims + cut.accruedReserve.val - cut.debt - (deficit.val : ℚ)
    rw [hsame]
    have hcast : (deficit.val : ℚ) + amount.val = cut.deficitUnderlying.val := by
      exact_mod_cast deficit_eq
    unfold exactCash at hcost ⊢
    linarith
  | withdrawReserve msg _ _ accrued =>
    rw [msg] at hd
    obtain ⟨r, hr, hcash⟩ := cashFloor_withdrawReserve hd
    refine ⟨r, .of_accrued (by rw [msg]; rfl) hr, ?_⟩
    unfold messageSlack
    rw [msg]
    exact hcash

/-! ## Runs -/

/-- What the accrual of a step may leave to nobody. -/
def accrualSlack (s : PoolStorage) (e : Event) : ℚ :=
  if e.msg.accruesInterest = true then slackTo s e.env.blockTime else 0

theorem Accrual.cashFloor_ge {s : PoolStorage} {e : Event} {r : ReserveStateV1}
    (h : Accrual s e r) : cashFloor s.reserve - accrualSlack s e ≤ cashFloor r := by
  unfold Accrual at h
  unfold accrualSlack
  split at h
  · rename_i hkind
    rw [if_pos hkind]
    exact cashFloor_of_loss (slackTo_nonneg s _) h.exactCash_ge
  · rename_i hkind
    rw [if_neg hkind, h, sub_zero]

/-- A step lowers the implied cash below minus one by at most its slack. -/
theorem PoolStep.cashFloor_step {s s' : PoolStorage} {e : Event} (h : PoolStep s e s') :
    cashFloor s.reserve - (accrualSlack s e + messageSlack s e s') ≤ cashFloor s'.reserve := by
  obtain ⟨r, hr, hmessage⟩ := h.cashFloor_ge
  have haccrual := hr.cashFloor_ge
  linarith

/-- What the roundings of a run may leave to nobody. -/
def roundingSlack (ts : List (Transition PoolStorage Event)) : ℚ :=
  (ts.map fun x => accrualSlack x.pre x.label + messageSlack x.pre x.label x.post).sum

/-- Along every run from a new pool the implied cash is at least minus one, less the slack
of its steps, rounded up. -/
theorem implied_cash_ge {t : Timestamp} {s₀ s : PoolStorage}
    {ts : List (Transition PoolStorage Event)} (hdeployed : DeployedAt t s₀)
    (run : Run PoolStep s₀ ts s) : -(1 + ⌈roundingSlack ts⌉) ≤ impliedCash s.reserve := by
  have hstart : cashFloor s₀.reserve = -1 := by
    rw [hdeployed.fresh.reserve, cashFloor, exactCash]
    simp [initialReserve, ReserveStateV1.claims, ReserveStateV1.debt]
  have hrun : cashFloor s₀.reserve - roundingSlack ts ≤ cashFloor s.reserve := by
    apply run.surplus_ge (I := fun _ => True) (m := fun s => cashFloor s.reserve)
    · intros
      trivial
    · intro s e s' _ hstep
      exact hstep.cashFloor_step
    · trivial
  have hexact : -1 - roundingSlack ts ≤ exactCash s.reserve := by
    rw [← hstart]
    exact le_trans hrun (min_le_left _ _)
  have hfloor : -(1 + ⌈roundingSlack ts⌉) ≤ ⌊exactCash s.reserve⌋ := by
    rw [Int.le_floor]
    have hceil := Int.le_ceil (roundingSlack ts)
    push_cast
    linarith
  exact le_trans hfloor (floor_exactCash_le _)

namespace Demo

/-- All that was lent is borrowed, and a thousandth of a year later the custodian has the
interest charged. -/
def lentOut : List Call :=
  [call "lender" [⟨"usd", 1000⟩] .lend, call "alice" [⟨"gold", 200⟩] .addCollateral,
    call "alice" [] (.borrow 1000),
    ⟨deps 10, env 31536, ⟨"custodian", []⟩, .updateRateParams msg.rateParams⟩]

/-- The books imply a cash of minus one. -/
def lentOutCheck (s : PoolStorage) : Bool := decide (impliedCash s.reserve = -1)

theorem lentOut_ok :
    replayCheck (deps 10) (env 0) ⟨"owner", []⟩ msg lentOut lentOutCheck = true := by
  decide +kernel

end Demo

/-- The borrowers owe a unit of interest, the lenders get nine tenths of it, and the tenth
of the protocol is floored away: the implied cash is minus one. -/
theorem implied_cash_negative :
    ∃ s₀ ts s, DeployedAt (Demo.env 0).blockTime s₀ ∧ Run PoolStep s₀ ts s ∧
      ts.map (fun x => x.label.toCall) = Demo.lentOut ∧ impliedCash s.reserve = -1 := by
  obtain ⟨s₀, ts, s, hdeployed, run, hcalls, hcheck⟩ := exists_run Demo.lentOut_ok
  exact ⟨s₀, ts, s, hdeployed, run, hcalls, of_decide_eq_true hcheck⟩

/-- It is within the slack of that run. -/
theorem implied_cash_ge_lentOut :
    ∃ s₀ ts s, DeployedAt (Demo.env 0).blockTime s₀ ∧ Run PoolStep s₀ ts s ∧
      ts.map (fun x => x.label.toCall) = Demo.lentOut ∧
      -(1 + ⌈roundingSlack ts⌉) ≤ impliedCash s.reserve := by
  obtain ⟨s₀, ts, s, hdeployed, run, hcalls, -⟩ := exists_run Demo.lentOut_ok
  exact ⟨s₀, ts, s, hdeployed, run, hcalls, implied_cash_ge hdeployed run⟩

end DemocratizedPrime
