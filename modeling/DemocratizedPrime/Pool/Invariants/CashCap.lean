import DemocratizedPrime.Pool.Invariants.Solvency
import Mathlib.Data.Rat.Floor

/-!
# The cash cap

A loan or a withdrawal is accepted when it is at most the free cash of the books, and
nobody asks the bank.  The free cash is the claims less the debt and the deficit, each
total rounded down, so it exceeds the exact difference by less than one unit, and that
difference is what the pool holds, less the accrued reserve and the surplus.

* `PoolStep.withdrawal` and `PoolStep.loan`: what is paid is at most the free cash.
* `cash_cap_covered`: along every run the free cash is covered by the coins of the pool, up
  to the losses that rounding may have caused.
* `cash_cap_short`: with large totals one accrual leaves less than the books say.
-/

namespace DemocratizedPrime

open Result Decimal256 TreeMap Transitions LendingBooks

/-! ## What the cap lets through -/

/-- The withdrawals of all that a holder has, or of all that was sent. -/
def ExecuteMsg.withdrawsAll : ExecuteMsg → Bool
  | .withdraw _ amount _ => amount.isNone
  | .receive cw20Msg =>
    match cw20Msg.payload with
    | .ok (.withdrawExact ..) => true
    | _ => false
  | _ => false

/-- A withdrawal burns units of the accrued reserve, and pays for them what the free cash
covers. -/
structure Withdrawal (s : PoolStorage) (e : Event) (s' : PoolStorage) (r : ReserveStateV1)
    (totals : ReserveTotals) (burned paid : Uint128) : Prop where
  accrued : AccruedTo s e.env.blockTime r
  totals_eq : reserveTotalsAndCashU128 r = .ok totals
  sends : ∃ lender, e.response.bankSends = [(lender, [⟨s.contract.lendingDenom.name, paid⟩])]
  paid_eq : paid.val = burned.val * r.liquidityIndex.atomics / decimalFractional
  paid_le : paid.val ≤ totals.cash.val
  burned_le : e.msg.withdrawsAll = true ∨
    (burned.val : ℚ) * r.liquidityIndex.toRat ≤ totals.cash.val
  reserve : ∃ total : Uint128, total.val + burned.val = r.totalScaledLiquidity.val ∧
    s' = s.setReserveStateV1 { r with totalScaledLiquidity := total }

/-- The units of an amount are worth at most the amount, and so is what is paid for them. -/
theorem paid_le_of_units {amount burned paid cash : Nat} {i : Decimal256}
    (hburned : burned = amount * decimalFractional / i.atomics)
    (hpaid : paid = burned * i.atomics / decimalFractional) (hcash : amount ≤ cash) :
    paid ≤ cash ∧ (burned : ℚ) * i.toRat ≤ cash := by
  have hunits := scaled_toRat_le hburned
  have hvalue := floored_le_toRat hpaid
  have hamount : (amount : ℚ) ≤ cash := by exact_mod_cast hcash
  have hle : (paid : ℚ) ≤ cash := by linarith
  exact ⟨by exact_mod_cast hle, by linarith⟩

theorem executeWithdrawCw20_withdrawal {s s' : PoolStorage} {e : Event} {sender : Addr}
    {received : Uint128} {amount : Option Uint128} {exact : Bool} {cf : Option Bool}
    (hall : exact = true → e.msg.withdrawsAll = true)
    (h : executeWithdrawCw20 s e.env sender received amount exact cf = .ok (s', e.response)) :
    ∃ r totals burned paid, Withdrawal s e s' r totals burned paid := by
  obtain ⟨token, r, r', t, w, -, hr, ht, hw, hr', htotal, rfl, hmessages⟩ :=
    executeWithdrawCw20_spec h
  obtain ⟨hpaid, -, hcases⟩ := holderWithdrawAmounts_spec hw
  have hsends : e.response.bankSends =
      [(sender, [⟨s.contract.lendingDenom.name, w.underlyingToSend⟩])] := by
    rw [bankSends_eq hmessages]
    simp [List.filterMap_cons]
  have hcovered : w.underlyingToSend.val ≤ t.cash.val ∧ (e.msg.withdrawsAll = true ∨
      (w.scaledToBurn.val : ℚ) * r.liquidityIndex.toRat ≤ t.cash.val) := by
    rcases hcases with ⟨hexact, -, hcash⟩ | ⟨amt, -, -, hcash, hburned⟩
    · exact ⟨hcash, Or.inl (hall hexact)⟩
    · obtain ⟨hle, hunits⟩ := paid_le_of_units hburned hpaid hcash
      exact ⟨hle, Or.inr hunits⟩
  rw [hr']
  exact ⟨r, t, w.scaledToBurn, w.underlyingToSend, hr, ht, ⟨sender, hsends⟩, hpaid, hcovered.1,
    hcovered.2, _, htotal, rfl⟩

theorem executeWithdraw_withdrawal {s s' : PoolStorage} {e : Event} {lender : String}
    {amount : Option Uint128} {cf : Option Bool}
    (hall : amount = none → e.msg.withdrawsAll = true)
    (h : executeWithdraw e.deps s e.env e.info lender amount cf = .ok (s', e.response)) :
    ∃ r totals burned paid, Withdrawal s e s' r totals burned paid := by
  obtain ⟨token, r, r', bal, max, t, w, -, -, -, hr, ht, -, -, hmax, hw, hr', htotal, rfl,
    hmessages⟩ := executeWithdraw_spec h
  obtain ⟨hpaid, hcases⟩ := ownerWithdrawAmounts_spec hw
  have hsends : e.response.bankSends =
      [(trim lender, [⟨s.contract.lendingDenom.name, w.underlyingToSend⟩])] := by
    rw [bankSends_eq hmessages]
    simp [List.filterMap_cons]
  have hcovered : w.underlyingToSend.val ≤ t.cash.val ∧ (e.msg.withdrawsAll = true ∨
      (w.scaledToBurn.val : ℚ) * r.liquidityIndex.toRat ≤ t.cash.val) := by
    rcases hcases with ⟨hnone, hburned, hcash⟩ | ⟨amt, -, -, hcash, hburned⟩
    · refine ⟨?_, Or.inl (hall hnone)⟩
      rw [hpaid, hburned, ← hmax]
      exact hcash
    · obtain ⟨hle, hunits⟩ := paid_le_of_units hburned hpaid hcash
      exact ⟨hle, Or.inr hunits⟩
  rw [hr']
  exact ⟨r, t, w.scaledToBurn, w.underlyingToSend, hr, ht, ⟨_, hsends⟩, hpaid, hcovered.1,
    hcovered.2, _, htotal, rfl⟩

theorem PoolStep.withdrawal {s s' : PoolStorage} {e : Event} (h : PoolStep s e s')
    (hmsg : e.msg.isWithdrawal = true) :
    ∃ r totals burned paid, Withdrawal s e s' r totals burned paid := by
  have hd : dispatch e.deps s e.env e.info e.msg = .ok (s', e.response) := execute_eq_ok h
  cases hm : e.msg with
  | receive m =>
    rw [hm] at hd
    obtain ⟨holder, received, body⟩ := m
    obtain ⟨-, payload, rfl, ⟨amount, exact, cf, hbody, hwithdraw⟩ |
      ⟨recipient, amount, exact, hbody, -⟩⟩ := receive_spec hd
    · refine executeWithdrawCw20_withdrawal (fun hexact => ?_) hwithdraw
      rw [hm]
      cases hbody with
      | amount => cases hexact
      | all => rfl
    · rw [hm] at hmsg
      cases hbody <;> cases hmsg
  | withdraw lender amount cf =>
    rw [hm] at hd
    refine executeWithdraw_withdrawal (fun hnone => ?_) hd
    rw [hm, hnone]
    rfl
  | _ => rw [hm] at hmsg; cases hmsg

/-- A loan is at most the free cash of the accrued reserve. -/
theorem PoolStep.loan {s s' : PoolStorage} {e : Event} {amount : Uint128} (h : PoolStep s e s')
    (hmsg : e.msg = .borrow amount) :
    ∃ r totals, AccruedTo s e.env.blockTime r ∧ reserveTotalsAndCashU128 r = .ok totals ∧
      amount.val ≤ totals.cash.val ∧
      e.response.bankSends = [(e.info.sender, [⟨s.contract.lendingDenom.name, amount⟩])] := by
  have hd : dispatch e.deps s e.env e.info e.msg = .ok (s', e.response) := execute_eq_ok h
  rw [hmsg] at hd
  obtain ⟨r, t, debt, prices, position, total, -, hr, ht, hcash, -, -, -, -, -, -, hmessages⟩ :=
    borrow_spec hd
  refine ⟨r, t, hr, ht, hcash, ?_⟩
  rw [bankSends_eq hmessages]
  simp

/-- The messages that the cap is for. -/
def ExecuteMsg.isCapped : ExecuteMsg → Bool
  | .borrow .. => true
  | m => m.isWithdrawal

theorem PoolStep.capped {s s' : PoolStorage} {e : Event} (h : PoolStep s e s')
    (hmsg : e.msg.isCapped = true) :
    ∃ r totals, AccruedTo s e.env.blockTime r ∧ reserveTotalsAndCashU128 r = .ok totals ∧
      coinsOf s.contract.lendingDenom.name e.response.sentCoins ≤ totals.cash.val := by
  by_cases hloan : ∃ amount, e.msg = .borrow amount
  · obtain ⟨amount, hloan⟩ := hloan
    obtain ⟨r, t, hr, ht, hcash, hsends⟩ := h.loan hloan
    refine ⟨r, t, hr, ht, ?_⟩
    rw [Response.sentCoins, hsends]
    simpa using hcash
  · have hwithdraw : e.msg.isWithdrawal = true := by
      unfold ExecuteMsg.isCapped at hmsg
      split at hmsg
      · rename_i amount hm
        exact absurd ⟨amount, hm⟩ hloan
      · exact hmsg
    obtain ⟨r, t, burned, paid, w⟩ := h.withdrawal hwithdraw
    obtain ⟨lender, hsends⟩ := w.sends
    refine ⟨r, t, w.accrued, w.totals_eq, ?_⟩
    rw [Response.sentCoins, hsends]
    simpa using w.paid_le

/-! ## What covers the free cash -/

/-- The free cash exceeds the exact difference by less than one unit. -/
theorem freeCash_lt {r : ReserveStateV1} {t : ReserveTotals}
    (h : reserveTotalsAndCashU128 r = .ok t) (hpos : t.cash.val ≠ 0) :
    (t.cash.val : ℚ) < r.claims - r.debt - r.deficitUnderlying.val + 1 := by
  obtain ⟨hl, hb, hcash⟩ := reserveTotalsAndCashU128_eq h
  have hclaims : (t.totalLiquidity.val : ℚ) ≤ r.claims := floored_le_toRat hl
  have hdebt : r.debt < t.totalBorrow.val + 1 := toRat_lt_floored hb
  have hsum : t.cash.val + t.totalBorrow.val + r.deficitUnderlying.val = t.totalLiquidity.val := by
    omega
  have hcast : (t.cash.val : ℚ) + t.totalBorrow.val + r.deficitUnderlying.val =
      t.totalLiquidity.val := by exact_mod_cast hsum
  linarith

theorem AccruedTo.roundingLoss_nonneg (r : ReserveStateV1) (elapsed : Nat) :
    0 ≤ AccruedTo.roundingLoss r elapsed := by
  unfold AccruedTo.roundingLoss
  split
  · exact le_refl _
  · exact mul_nonneg (add_nonneg r.debt_nonneg (Nat.cast_nonneg _)) ulp_pos.le

theorem accrualLoss_nonneg (s : PoolStorage) (e : Event) : 0 ≤ accrualLoss s e := by
  unfold accrualLoss
  split
  · exact AccruedTo.roundingLoss_nonneg _ _
  · exact le_refl _

theorem messageLoss_nonneg (e : Event) (s' : PoolStorage) : 0 ≤ messageLoss e s' := by
  unfold messageLoss
  split
  · exact mul_nonneg (toRat_nonneg _) ulp_pos.le
  · exact le_refl _

/-- What rounding may cost along a run, and in the accrual to a later block. -/
def lossesBy (ts : List (Transition World Event)) (s : PoolStorage) (later : Timestamp) : ℚ :=
  roundingLosses ts + AccruedTo.roundingLoss s.reserve
    (timeElapsedSeconds s.reserve.lastUpdatedAt later)

theorem roundingLosses_nonneg (ts : List (Transition World Event)) : 0 ≤ roundingLosses ts := by
  apply List.sum_nonneg
  intro loss hloss
  obtain ⟨x, -, rfl⟩ := List.mem_map.mp hloss
  exact add_nonneg (accrualLoss_nonneg _ _) (messageLoss_nonneg _ _)

theorem lossesBy_nonneg (ts : List (Transition World Event)) (s : PoolStorage)
    (later : Timestamp) : 0 ≤ lossesBy ts s later :=
  add_nonneg (roundingLosses_nonneg ts) (AccruedTo.roundingLoss_nonneg _ _)

/-- The free cash of a world whose surplus is known. -/
theorem freeCash_covered {address : Addr} {w : World} {ts : List (Transition World Event)}
    {later : Timestamp} {r : ReserveStateV1} {t : ReserveTotals} {held : Nat}
    (hsurplus : held - roundingLosses ts ≤ w.surplus address)
    (accrued : AccruedTo w.pool later r) (ht : reserveTotalsAndCashU128 r = .ok t)
    (hpos : t.cash.val ≠ 0) :
    (t.cash.val : ℤ) + r.accruedReserve.val + held ≤
      w.cash address + ⌈lossesBy ts w.pool later⌉ := by
  have haccrued := World.surplus_accrued accrued address
  have hcash := freeCash_lt ht hpos
  have hbooks : (w.accrued r).surplus address =
      w.cash address + r.debt + r.deficitUnderlying.val - r.claims - r.accruedReserve.val := rfl
  have hlt : ((t.cash.val : ℤ) + r.accruedReserve.val + held - w.cash address - 1 : ℤ) <
      ⌈lossesBy ts w.pool later⌉ := by
    rw [Int.lt_ceil, lossesBy]
    push_cast
    linarith
  omega

/-- In every state of a run of transactions from a new pool, and for every later block:
the free cash is at most the coins of the pool and the losses of rounding, rounded up; when
there is any, it leaves out the accrued reserve and what the pool held at first.  The same
covers what a loan or a withdrawal that the pool accepts pays. -/
theorem cash_cap_covered {address : Addr} {t : Timestamp} {w₀ w : World}
    {ts : List (Transition World Event)} (hdeployed : DeployedAt t w₀.pool)
    (run : Run (WorldStep address) w₀ ts w) :
    (∀ later r totals, AccruedTo w.pool later r → reserveTotalsAndCashU128 r = .ok totals →
      (totals.cash.val : ℤ) ≤ w.cash address + ⌈lossesBy ts w.pool later⌉ ∧
      (totals.cash.val ≠ 0 →
        (totals.cash.val : ℤ) + r.accruedReserve.val + w₀.cash address ≤
          w.cash address + ⌈lossesBy ts w.pool later⌉)) ∧
    ∀ e s', PoolStep w.pool e s' → e.msg.isCapped = true →
      (coinsOf w.pool.contract.lendingDenom.name e.response.sentCoins : ℤ) ≤
        w.cash address + ⌈lossesBy ts w.pool e.env.blockTime⌉ := by
  have hsurplus := WorldStep.surplus_run hdeployed run
  have hcap : ∀ later r totals, AccruedTo w.pool later r →
      reserveTotalsAndCashU128 r = .ok totals →
      (totals.cash.val : ℤ) ≤ w.cash address + ⌈lossesBy ts w.pool later⌉ := by
    intro later r totals accrued ht
    by_cases hzero : totals.cash.val = 0
    · have hnonneg : 0 ≤ ⌈lossesBy ts w.pool later⌉ := Int.ceil_nonneg (lossesBy_nonneg _ _ _)
      omega
    · have hcovered := freeCash_covered hsurplus accrued ht hzero
      omega
  refine ⟨fun later r totals accrued ht => ⟨hcap later r totals accrued ht,
    freeCash_covered hsurplus accrued ht⟩, ?_⟩
  intro e s' hstep hmsg
  obtain ⟨r, totals, accrued, ht, hle⟩ := hstep.capped hmsg
  have hcovered := hcap e.env.blockTime r totals accrued ht
  omega

namespace Demo

/-- The same pool, with a flat rate of ten percent and no protocol fee. -/
def flatMsg : InstantiateMsg :=
  { msg with rateParams := { msg.rateParams with
      minRate := percent 10
      maxRate := percent 10
      reserveFactor := percent 0 } }

/-- Everyone but the pool is rich. -/
def richBank : Bank := fun a _ => if a = "pool" then 0 else 10 ^ 21

/-- A hundred units are lent, and ninety of them borrowed. -/
def wealthy : List Call :=
  [call "lender" [⟨"usd", tokens 100⟩] .lend, call "alice" [⟨"gold", tokens 20⟩] .addCollateral,
    call "alice" [] (.borrow (tokens 90))]

/-- Two seconds later the owner withdraws 60 base units more than the ten that are left. -/
def overdraft : Call :=
  ⟨{ deps 10 with scaledBalance := fun _ _ => .ok (tokens 100) }, env 2, ⟨"owner", []⟩,
    .withdraw "lender" (some ((tokens 10).saturatingAdd 60)) none⟩

/-- The free cash of the reserve accrued to a block. -/
def freeCashAt (s : PoolStorage) (later : Timestamp) : ContractResult Uint128 := do
  let r ← computeEffectiveReserve s later s.contract.rateParams
  let totals ← reserveTotalsAndCashU128 r
  return totals.cash

/-- The bank holds `10 ^ 19` base units, and the books imply sixty more. -/
def wealthyCheck (w : World) : Bool :=
  decide (w.pool.contract.lendingDenom.name = "usd") &&
    decide (w.bank "pool" "usd" = 10000000000000000000) &&
    (match freeCashAt w.pool (env 2).blockTime with
    | .ok cash => decide (cash.val = 10000000000000000060)
    | .error _ => false) &&
    match fire overdraft w.pool with
    | .ok (_, e) => decide (coinsOf "usd" e.response.sentCoins = 10000000000000000059)
    | .error _ => false

theorem wealthy_ok :
    deliverCheck (deps 10) (env 0) ⟨"owner", []⟩ flatMsg richBank wealthy wealthyCheck = true := by
  decide +kernel

/-- What the check says of the world after the loan, and of the two seconds after it. -/
theorem wealthy_check {w : World} (h : wealthyCheck w = true) :
    w.cash "pool" = 10000000000000000000 ∧
      (∃ r totals, AccruedTo w.pool (env 2).blockTime r ∧
        reserveTotalsAndCashU128 r = .ok totals ∧ totals.cash.val = 10000000000000000060) ∧
      ∃ e s', PoolStep w.pool e s' ∧ e.toCall = overdraft ∧
        coinsOf w.pool.contract.lendingDenom.name e.response.sentCoins = 10000000000000000059 := by
  simp only [wealthyCheck, Bool.and_eq_true, decide_eq_true_eq] at h
  obtain ⟨⟨⟨hdenom, hbank⟩, hcash⟩, hpaid⟩ := h
  refine ⟨?_, ?_, ?_⟩
  · rw [World.cash, hdenom]
    exact hbank
  · split at hcash
    · rename_i cash hfree
      simp only [freeCashAt, bind_eq_ok, pure_eq_ok] at hfree
      obtain ⟨r, hr, totals, htotals, rfl⟩ := hfree
      exact ⟨r, totals, hr, htotals, of_decide_eq_true hcash⟩
    · cases hcash
  · split at hpaid
    · rename_i s' e hfire
      obtain ⟨hstep, hcall⟩ := fire_step hfire
      refine ⟨e, s', hstep, hcall, ?_⟩
      rw [hdenom]
      exact of_decide_eq_true hpaid
    · cases hpaid

end Demo

/-- The pool holds ten units of 18 decimals, and two seconds after a loan its books say that
60 base units more are free.  The owner's withdrawal of 59 more than there are is
accepted. -/
theorem cash_cap_short :
    ∃ w₀ ts w, DeployedAt (Demo.env 0).blockTime w₀.pool ∧ Run (WorldStep "pool") w₀ ts w ∧
      ts.map (fun x => x.label.toCall) = Demo.wealthy ∧ w.cash "pool" = 10000000000000000000 ∧
      (∃ r totals, AccruedTo w.pool (Demo.env 2).blockTime r ∧
        reserveTotalsAndCashU128 r = .ok totals ∧ totals.cash.val = 10000000000000000060) ∧
      ∃ e s', PoolStep w.pool e s' ∧ e.toCall = Demo.overdraft ∧
        coinsOf w.pool.contract.lendingDenom.name e.response.sentCoins = 10000000000000000059 := by
  obtain ⟨w₀, ts, w, hdeployed, -, run, hcalls, hcheck⟩ := exists_worldRun Demo.wealthy_ok
  exact ⟨w₀, ts, w, hdeployed, run, hcalls, Demo.wealthy_check hcheck⟩

/-- The free cash of that pool is within the losses that its run allows. -/
theorem cash_cap_covered_wealthy :
    ∃ w₀ ts w r totals, DeployedAt (Demo.env 0).blockTime w₀.pool ∧
      Run (WorldStep "pool") w₀ ts w ∧ AccruedTo w.pool (Demo.env 2).blockTime r ∧
      reserveTotalsAndCashU128 r = .ok totals ∧
      (10000000000000000060 : ℤ) + r.accruedReserve.val + w₀.cash "pool" ≤
        10000000000000000000 + ⌈lossesBy ts w.pool (Demo.env 2).blockTime⌉ := by
  obtain ⟨w₀, ts, w, hdeployed, -, run, -, hcheck⟩ := exists_worldRun Demo.wealthy_ok
  obtain ⟨hbank, ⟨r, totals, accrued, htotals, hcash⟩, -⟩ := Demo.wealthy_check hcheck
  have hpos : totals.cash.val ≠ 0 := by
    rw [hcash]
    decide
  have hcovered := ((cash_cap_covered hdeployed run).1 _ r totals accrued htotals).2 hpos
  rw [show (Demo.env 0).contractAddress = "pool" from rfl, hcash, hbank] at hcovered
  exact ⟨w₀, ts, w, r, totals, hdeployed, run, accrued, htotals, by exact_mod_cast hcovered⟩

end DemocratizedPrime
