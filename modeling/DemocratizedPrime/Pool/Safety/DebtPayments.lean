import DemocratizedPrime.Pool.Invariants.InterestTime
import DemocratizedPrime.Pool.Invariants.Solvency
import DemocratizedPrime.Pool.Safety.Isolation
import Mathlib.Algebra.BigOperators.Ring.List
import Mathlib.Algebra.BigOperators.Ring.Finset
import Mathlib.Algebra.Order.BigOperators.Group.Finset

/-!
# What it costs to pay a debt off

A debt is paid down by its borrower's repayments and by the liquidators.  Either way the
coins that the pool keeps are the least of what was sent and of the closing price, the
price rounded up; they cancel the units they are worth, rounded down, and at the closing
price all of them: `DebtPayment`.  So a payment never cancels units that are worth more
than itself, and only the closing price closes a debt.

Along a run the borrow index does not go down.  What is cancelled later is worth at least
as much as it was at the start, and the payments add up to the closing price at the start:
`extinguishing_costs_debt`.
-/

namespace DemocratizedPrime

open Result Transitions

variable {s s' : PoolStorage} {e : Event} {b : Addr}

/-! ## Closing prices -/

/-- The price of closing a debt, in coins: what `scaledToUnderlyingBorrowCeil` returns. -/
def closingPrice (scaled : Nat) (bi : Decimal256) : Nat :=
  (scaled * bi.atomics + (decimalFractional - 1)) / decimalFractional

theorem le_closingPrice_mul (scaled : Nat) (bi : Decimal256) :
    scaled * bi.atomics ≤ closingPrice scaled bi * decimalFractional := by
  have h := Rounding.le_ceilDiv_mul (K := ℚ) (scaled * bi.atomics)
    (d := decimalFractional) (by decide)
  exact_mod_cast h

theorem closingPrice_le_iff {scaled n : Nat} {bi : Decimal256} :
    closingPrice scaled bi ≤ n ↔ scaled * bi.atomics ≤ n * decimalFractional := by
  constructor
  · intro h
    exact Nat.le_trans (le_closingPrice_mul _ _) (Nat.mul_le_mul_right _ h)
  · exact Rounding.ceilDiv_le (by decide)

/-- The closing prices of any debts cover all of them together. -/
theorem sum_le_sum_closingPrice (bi : Decimal256) (bs : Finset Addr) (debt : Addr → Nat) :
    (∑ b ∈ bs, debt b) * bi.atomics / decimalFractional ≤ ∑ b ∈ bs, closingPrice (debt b) bi := by
  have hall : (∑ b ∈ bs, debt b) * bi.atomics ≤
      (∑ b ∈ bs, closingPrice (debt b) bi) * decimalFractional := by
    rw [Finset.sum_mul, Finset.sum_mul]
    exact Finset.sum_le_sum fun b _ => le_closingPrice_mul (debt b) bi
  calc (∑ b ∈ bs, debt b) * bi.atomics / decimalFractional
      ≤ (∑ b ∈ bs, closingPrice (debt b) bi) * decimalFractional / decimalFractional :=
        Nat.div_le_div_right hall
    _ = ∑ b ∈ bs, closingPrice (debt b) bi := Nat.mul_div_cancel _ (by decide)

/-! ## Payments -/

/-- Whose debt the message pays, when `sender` sends it. -/
def ExecuteMsg.debtor? (sender : Addr) : ExecuteMsg → Option Addr
  | .repay => some sender
  | .liquidate borrower _ => some (trim borrower)
  | _ => none

/-- The lending coins that came with the event, less those that it sent. -/
def Event.kept (denom : String) (e : Event) : Nat :=
  coinsOf denom e.info.funds - coinsOf denom e.response.sentCoins

/-- What the pool keeps of a payment for the borrower. -/
def keptFor (b : Addr) (x : Transition PoolStorage Event) : Nat :=
  if x.label.msg.debtor? x.label.info.sender = some b then
    x.label.kept x.pre.contract.lendingDenom.name
  else 0

/-- A payment for the debt of `b`, with the reserve that it is made at. -/
structure DebtPayment (s : PoolStorage) (e : Event) (b : Addr) (r : ReserveStateV1)
    (s' : PoolStorage) : Prop where
  accrued : AccruedTo s e.env.blockTime r
  kept_eq : e.kept s.contract.lendingDenom.name =
    min (coinsOf s.contract.lendingDenom.name e.info.funds)
      (closingPrice (s.getScaledBorrow b).val r.borrowIndex)
  returned : coinsOf s.contract.lendingDenom.name e.response.sentCoins +
      e.kept s.contract.lendingDenom.name =
    coinsOf s.contract.lendingDenom.name e.info.funds
  payer : ∀ x ∈ e.response.bankSends, x.1 = e.info.sender
  covered : (s.getScaledBorrow b).val * r.borrowIndex.atomics ≤
    (s'.getScaledBorrow b).val * r.borrowIndex.atomics +
      decimalFractional * e.kept s.contract.lendingDenom.name
  closed : (s'.getScaledBorrow b).val = 0 →
    closingPrice (s.getScaledBorrow b).val r.borrowIndex ≤ e.kept s.contract.lendingDenom.name

/-- The units that a payment cancels are worth at most the payment, and only the closing
price cancels all of them. -/
theorem cancelled_spec {applied payoff debt cancelled left : Uint128} {bi : Decimal256}
    (hpayoff : payoff.val = closingPrice debt.val bi)
    (h : scaledRepayFor applied payoff debt bi = .ok cancelled)
    (hleft : left.val + cancelled.val = debt.val) :
    debt.val * bi.atomics ≤ left.val * bi.atomics + decimalFractional * applied.val ∧
      (left.val = 0 → payoff.val ≤ applied.val) := by
  have hworth : cancelled.val * bi.atomics ≤ decimalFractional * applied.val ∧
      (left.val = 0 → payoff.val ≤ applied.val) := by
    rcases scaledRepayFor_spec h with ⟨hle, rfl⟩ | ⟨hlt, hbi, hcancelled⟩
    · refine ⟨?_, fun _ => hle⟩
      rw [hpayoff] at hle
      rw [Nat.mul_comm decimalFractional]
      exact closingPrice_le_iff.mp hle
    · have hfloor : cancelled.val * bi.atomics ≤ decimalFractional * applied.val := by
        rw [hcancelled, Nat.mul_comm decimalFractional]
        exact Nat.div_mul_le_self _ _
      refine ⟨hfloor, fun hzero => ?_⟩
      -- If nothing were left, the payment would be worth the whole debt.
      rw [hzero, Nat.zero_add] at hleft
      rw [hleft, Nat.mul_comm decimalFractional] at hfloor
      rw [hpayoff]
      exact closingPrice_le_iff.mpr hfloor
  refine ⟨?_, hworth.2⟩
  rw [← hleft, Nat.add_mul]
  exact Nat.add_le_add_left hworth.1 _

theorem PoolStep.repay_payment (h : PoolStep s e s') (hmsg : e.msg = .repay) :
    ∃ r, DebtPayment s e e.info.sender r s' := by
  have hd : dispatch e.deps s e.env e.info e.msg = .ok (s', e.response) := execute_eq_ok h
  rw [hmsg] at hd
  obtain ⟨amount, payoff, cancelled, left, total, r, hfunds, accrued, hpayoff, hcancelled, -,
    hleft, -, hs', hmessages⟩ := repay_spec hd
  have hsends := bankSends_eq hmessages
  rw [excessMessages_bankSends] at hsends
  have hprice : payoff.val = closingPrice (s.getScaledBorrow e.info.sender).val r.borrowIndex :=
    hpayoff
  have happlied : (amount.min payoff).val = min amount.val payoff.val := Uint.min_val _ _
  have hin : coinsOf s.contract.lendingDenom.name e.info.funds = amount.val := by
    rw [hfunds]
    simp
  have hout : coinsOf s.contract.lendingDenom.name e.response.sentCoins =
      amount.val - (amount.min payoff).val := by
    rw [Response.sentCoins, hsends, coinsOf_refund]
    split
    · exact Uint.saturatingSub_val _ _
    · omega
  have hkept : e.kept s.contract.lendingDenom.name = (amount.min payoff).val := by
    unfold Event.kept
    rw [hin, hout]
    omega
  have hdebt : (s'.getScaledBorrow e.info.sender).val = left.val := by
    rw [hs']
    change ((s.setScaledBorrow e.info.sender left).getScaledBorrow e.info.sender).val = _
    rw [getScaledBorrow_save, if_pos rfl]
  obtain ⟨hcovered, hclosed⟩ := cancelled_spec hprice hcancelled hleft
  refine ⟨r, accrued, ?_, ?_, ?_, ?_, ?_⟩
  · rw [hkept, hin, ← hprice, happlied]
  · rw [hkept, hin, hout]
    omega
  · intro x hx
    rw [hsends] at hx
    split at hx
    · rw [List.mem_singleton.mp hx]
    · cases hx
  · rw [hdebt, hkept]
    exact hcovered
  · rw [hdebt, hkept, ← hprice]
    exact hclosed

/-- A liquidation that does not write off is a payment of the liquidator. -/
theorem PoolStep.liquidation_payment {borrower : String} {seize : Amounts} (h : PoolStep s e s')
    (hs : CollateralLedger s) (hmsg : e.msg = .liquidate borrower seize)
    (hkeeps : ¬ WritesOff s e) : ∃ r, DebtPayment s e (trim borrower) r s' := by
  have hd : dispatch e.deps s e.env e.info e.msg = .ok (s', e.response) := execute_eq_ok h
  rw [hmsg] at hd
  obtain ⟨t, p, ht, hp, hsettle⟩ := liquidate_stages hd
  obtain ⟨r', outgoing, totals, -, hout, -, hs', hmessages⟩ := settleLiquidation_spec hsettle
  have target := liquidationTarget_spec ht
  have plan := planLiquidation_spec hp
  have hdebtor : t.borrower = trim borrower := target.borrower_eq
  have hno : p.badDebt = false := by
    cases hbad : p.badDebt with
    | false => rfl
    | true => exact absurd ⟨borrower, seize, t, p, hmsg, ht, hp, hbad⟩ hkeeps
  have hsends := bankSends_eq hmessages
  rw [List.filterMap_append] at hsends
  have hback := liquidation_lending_sent hs target plan hsends hout
  have hin : coinsOf s.contract.lendingDenom.name e.info.funds = p.sent.val := by
    rw [plan.funds]
    simp
  have hkept : e.kept s.contract.lendingDenom.name = p.actualRepay.val := by
    unfold Event.kept
    omega
  have hprice : t.debtPayoff.val =
      closingPrice (s.getScaledBorrow t.borrower).val t.reserve.borrowIndex := by
    rw [target.payoff_eq, target.scaledDebt_eq]
    rfl
  have happlied : p.actualRepay.val = min p.sent.val t.debtPayoff.val := by
    rw [plan.repay_eq]
    exact Uint.min_val _ _
  have hdebt : (s'.getScaledBorrow t.borrower).val = p.newScaledDebt.val := by
    rw [hs', shrinkOffer_eq]
    change ((s.setScaledBorrow t.borrower
      (if p.badDebt then 0 else p.newScaledDebt)).getScaledBorrow t.borrower).val = _
    rw [getScaledBorrow_save, if_pos rfl, hno]
    rfl
  have hcancelled := plan.scaledRepay_eq
  have hleft := plan.newDebt_eq
  rw [target.scaledDebt_eq] at hcancelled hleft
  obtain ⟨hcovered, hclosed⟩ := cancelled_spec hprice hcancelled hleft
  rw [← hdebtor]
  refine ⟨t.reserve, target.accrued, ?_, ?_, ?_, ?_, ?_⟩
  · rw [hkept, hin, ← hprice, happlied]
  · rw [hkept, hin]
    exact hback
  · intro x hx
    rw [hsends] at hx
    rcases List.mem_append.mp hx with hseized | hexcess
    · exact sendMessages_to x hseized
    · exact refundOf_to x hexcess
  · rw [hdebt, hkept]
    exact hcovered
  · rw [hdebt, hkept, ← hprice]
    exact hclosed

/-- Every message that pays the debt of `b` is a payment, unless it writes off. -/
theorem PoolStep.debtPayment (h : PoolStep s e s') (hs : CollateralLedger s)
    (hdebtor : e.msg.debtor? e.info.sender = some b) (hkeeps : ¬ WritesOff s e) :
    ∃ r, DebtPayment s e b r s' := by
  cases hm : e.msg with
  | repay =>
    rw [hm] at hdebtor
    obtain rfl := Option.some.inj hdebtor
    exact h.repay_payment hm
  | liquidate borrower seize =>
    rw [hm] at hdebtor
    obtain rfl := Option.some.inj hdebtor
    exact h.liquidation_payment hs hm hkeeps
  | _ =>
    rw [hm] at hdebtor
    cases hdebtor

/-! ## Runs -/

/-- What a step may be on the way to the end of the debt of `b`, from the time `T` on: any
message but a write-off of this debt.  Loans of `b` may come in between, since they only
add to it. -/
structure PayingOff (T : Timestamp) (b : Addr) (x : Transition PoolStorage Event) : Prop where
  later : T.seconds ≤ x.label.env.blockTime.seconds
  no_writeOff : x.label.msg.debtor? x.label.info.sender = some b → ¬ WritesOff x.pre x.label

/-- From the time `T` on, messages are served at a borrow index of at least `index`. -/
structure IndexFrom (T : Timestamp) (index : Nat) (s : PoolStorage) : Prop where
  ledger : CollateralLedger s
  index_le : ∀ t r, T.seconds ≤ t.seconds → AccruedTo s t r → index ≤ r.borrowIndex.atomics

theorem IndexFrom.step {T : Timestamp} {index : Nat} (hs : IndexFrom T index s)
    (hlater : T.seconds ≤ e.env.blockTime.seconds) (h : PoolStep s e s') :
    IndexFrom T index s' := by
  refine ⟨hs.ledger.step h, fun t r ht hr => ?_⟩
  rcases h.accrual with ⟨-, r₁, hr₁, hindex, -, -⟩ | ⟨-, hreserve, hparams⟩
  · have hle := hs.index_le _ r₁ hlater hr₁
    rw [← hindex] at hle
    exact Nat.le_trans hle hr.borrowIndex_le
  · exact hs.index_le t r ht (hr.of_reserve hreserve.symm hparams.symm)

/-- What a step takes from a debt is at most what the pool keeps, at any index that the
step is not served below. -/
theorem PoolStep.debt_covered {T : Timestamp} {index : Nat} (h : PoolStep s e s')
    (hs : IndexFrom T index s) (hx : PayingOff T b ⟨s, e, s'⟩) :
    (s.getScaledBorrow b).val * index ≤
      (s'.getScaledBorrow b).val * index + decimalFractional * keptFor b ⟨s, e, s'⟩ := by
  unfold keptFor
  dsimp only
  split
  · rename_i hdebtor
    obtain ⟨r, payment⟩ := h.debtPayment hs.ledger hdebtor (hx.no_writeOff hdebtor)
    have hindex : index ≤ r.borrowIndex.atomics := hs.index_le _ r hx.later payment.accrued
    have hcovered := payment.covered
    by_cases hdown : (s'.getScaledBorrow b).val ≤ (s.getScaledBorrow b).val
    · -- The units that were cancelled, at the two indexes.
      obtain ⟨cancelled, hsplit⟩ := Nat.exists_eq_add_of_le hdown
      rw [hsplit, Nat.add_mul] at hcovered ⊢
      have hmono : cancelled * index ≤ cancelled * r.borrowIndex.atomics :=
        Nat.mul_le_mul_left _ hindex
      omega
    · exact Nat.le_trans (Nat.mul_le_mul_right _ (by omega)) (Nat.le_add_right _ _)
  · rename_i hdebtor
    have hsame : (s.getScaledBorrow b).val ≤ (s'.getScaledBorrow b).val := by
      by_contra hdown
      rcases h.debtDown (Nat.not_le.mp hdown) with ⟨hsender, hmsg⟩ | ⟨target, seize, hmsg, htrim⟩
      · rw [hmsg, ExecuteMsg.debtor?, hsender] at hdebtor
        exact hdebtor rfl
      · rw [hmsg, ExecuteMsg.debtor?, htrim] at hdebtor
        exact hdebtor rfl
    exact Nat.le_trans (Nat.mul_le_mul_right _ hsame) (Nat.le_add_right _ _)

/-- From a reachable state, a debt ends only after payments that cover its closing price at
that state; each of them returns what the pool does not keep, and none below the closing
price of its time ends the debt.  The closing prices of any set of borrowers cover their
debts together. -/
theorem extinguishing_costs_debt {s₁ : PoolStorage} {ts : List (Transition PoolStorage Event)}
    {T : Timestamp} {r : ReserveStateV1} (reachable : Reachable s₁) (accrued : AccruedTo s₁ T r)
    (run : Run PoolStep s₁ ts s) (paying : ∀ x ∈ ts, PayingOff T b x) :
    ((s.getScaledBorrow b).val = 0 →
        closingPrice (s₁.getScaledBorrow b).val r.borrowIndex ≤ (ts.map (keptFor b)).sum) ∧
      (∀ x ∈ ts, x.label.msg.debtor? x.label.info.sender = some b →
        ∃ r', DebtPayment x.pre x.label b r' x.post) ∧
      ∀ bs : Finset Addr,
        (∑ a ∈ bs, (s₁.getScaledBorrow a).val) * r.borrowIndex.atomics / decimalFractional ≤
          ∑ a ∈ bs, closingPrice (s₁.getScaledBorrow a).val r.borrowIndex := by
  have hstart : IndexFrom T r.borrowIndex.atomics s₁ :=
    ⟨reachable.collateralLedger, fun t r' ht hr' => accrued.borrowIndex_mono hr' ht⟩
  have hstep : ∀ s e s', IndexFrom T r.borrowIndex.atomics s → PayingOff T b ⟨s, e, s'⟩ →
      PoolStep s e s' → IndexFrom T r.borrowIndex.atomics s' :=
    fun _ _ _ hs hx h => hs.step hx.later h
  refine ⟨fun hzero => ?_, fun x hx hdebtor => ?_, fun bs => ?_⟩
  · have hsum := run.le_sum (m := fun s => (s.getScaledBorrow b).val * r.borrowIndex.atomics)
      (g := fun _ => 0) (l := fun x => decimalFractional * keptFor b x) hstep
      (fun _ _ _ hs hx h => h.debt_covered hs hx) paying hstart
    rw [List.sum_map_mul_left, hzero, Nat.zero_mul, Nat.zero_add] at hsum
    rw [closingPrice_le_iff, Nat.mul_comm (ts.map (keptFor b)).sum]
    exact Nat.le_trans (Nat.le_add_right _ _) hsum
  · have hledger := (run.invariant_pre_of_transitions hstep paying hstart x hx).ledger
    exact (run.isStep x hx).debtPayment hledger hdebtor ((paying x hx).no_writeOff hdebtor)
  · exact sum_le_sum_closingPrice r.borrowIndex bs fun a => (s₁.getScaledBorrow a).val

namespace Demo

/-- A week after the loan. -/
def dueDate : Timestamp := (env 604800).blockTime

/-- Alice repays in pieces, half a year later the last of them, and too much. -/
def payOff : List Call :=
  [⟨deps 10, env 604800, ⟨"alice", [⟨"usd", 33⟩]⟩, .repay⟩,
    ⟨deps 10, env 604801, ⟨"alice", [⟨"usd", 2⟩]⟩, .repay⟩,
    ⟨deps 10, env 604801, ⟨"carol", [⟨"usd", 50⟩]⟩, .lend⟩,
    ⟨deps 10, env 15768000, ⟨"alice", [⟨"usd", 900⟩]⟩, .repay⟩]

/-- A call after the due date that is no liquidation. -/
def payingCheck (x : Transition PoolStorage Event) : Bool :=
  decide (dueDate.seconds ≤ x.label.env.blockTime.seconds) &&
    match x.label.msg with
    | .liquidate .. => false
    | _ => true

theorem paying_check {x : Transition PoolStorage Event} (h : payingCheck x = true) (b : Addr) :
    PayingOff dueDate b x := by
  simp only [payingCheck, Bool.and_eq_true, decide_eq_true_eq] at h
  refine ⟨h.1, ?_⟩
  rintro - ⟨borrower, seize, -, -, hmsg, -⟩
  rw [hmsg] at h
  cases h.2

/-- Whether the pieces can follow, end the debt, and come to 521 coins. -/
def payOffCheck (s : PoolStorage) : Bool :=
  match replayCalls s payOff, computeEffectiveReserve s dueDate s.contract.rateParams with
  | .ok (ts, last), .ok _ => ts.all payingCheck &&
      decide ((last.getScaledBorrow "alice").val = 0) &&
        decide ((ts.map (keptFor "alice")).sum = 521)
  | _, _ => false

theorem loan_ok :
    replayCheck (deps 10) (env 0) ⟨"owner", []⟩ msg opening payOffCheck = true := by
  decide +kernel

end Demo

/-- Alice pays off a debt of 500 scaled units. -/
theorem extinguishing_costs_debt_payOff :
    ∃ (s₁ s : PoolStorage) (ts : List (Transition PoolStorage Event)) (r : ReserveStateV1),
      AccruedTo s₁ Demo.dueDate r ∧ ts.map (fun x => x.label.toCall) = Demo.payOff ∧
      (s.getScaledBorrow "alice").val = 0 ∧ (ts.map (keptFor "alice")).sum = 521 ∧
      (((s.getScaledBorrow "alice").val = 0 →
          closingPrice (s₁.getScaledBorrow "alice").val r.borrowIndex ≤
            (ts.map (keptFor "alice")).sum) ∧
        (∀ x ∈ ts, x.label.msg.debtor? x.label.info.sender = some "alice" →
          ∃ r', DebtPayment x.pre x.label "alice" r' x.post) ∧
        ∀ bs : Finset Addr,
          (∑ a ∈ bs, (s₁.getScaledBorrow a).val) * r.borrowIndex.atomics / decimalFractional ≤
            ∑ a ∈ bs, closingPrice (s₁.getScaledBorrow a).val r.borrowIndex) := by
  obtain ⟨s₀, history, s₁, deployed, past, -, hcheck⟩ := exists_run Demo.loan_ok
  unfold Demo.payOffCheck at hcheck
  split at hcheck
  · rename_i ts s r hreplay accrued
    simp only [Bool.and_eq_true, List.all_eq_true, decide_eq_true_eq] at hcheck
    obtain ⟨⟨hpaying, hzero⟩, hkept⟩ := hcheck
    have hrun : Run PoolStep s₁ ts s ∧ ts.map (fun x => x.label.toCall) = Demo.payOff :=
      replay_run (fun _ _ => rfl) (fun _ _ _ _ h => h) hreplay
    exact ⟨s₁, s, ts, r, accrued, hrun.2, hzero, hkept,
      extinguishing_costs_debt ⟨_, s₀, history, deployed, past⟩ accrued hrun.1
        fun x hx => Demo.paying_check (hpaying x hx) "alice"⟩
  · cases hcheck

end DemocratizedPrime
