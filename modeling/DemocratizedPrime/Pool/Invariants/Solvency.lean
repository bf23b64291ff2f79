import DemocratizedPrime.Pool.AccrualDust
import DemocratizedPrime.Pool.Books
import DemocratizedPrime.Pool.World
import DemocratizedPrime.Pool.Invariants.InterestTime
import DemocratizedPrime.Pool.Invariants.CollateralLedger

/-!
# Custody solvency

The surplus of the pool is what it holds and is owed, less what it owes:

  `cash + tsb · bi + deficit - tsl · li - accrued_reserve`

in exact amounts.  A step is an accrual, if its message accrues, and then what the message
itself does.  The accrual may lower the surplus by the rounding of the borrow index
(`AccruedTo.surplus`).  The message is a `Move` of the books that never lowers the
surplus, except for a loan, which costs less than `bi · 10 ^ -18`
(`PoolStep.books`).  Along a run the losses add up (`custody_solvency`).

Collateral passes through the same account at the bank.  It is never in the lending
denomination, which is the invariant that `CollateralLedger` carries.
-/

namespace DemocratizedPrime

open Result Decimal256 TreeMap Transitions LendingBooks

/-- The reserve that a step starts from: after the accrual, if its message accrues. -/
def Accrual (s : PoolStorage) (e : Event) (r : ReserveStateV1) : Prop :=
  if e.msg.accruesInterest = true then AccruedTo s e.env.blockTime r else r = s.reserve

theorem Accrual.of_accrued {s : PoolStorage} {e : Event} {r : ReserveStateV1}
    (hkind : e.msg.accruesInterest = true) (h : AccruedTo s e.env.blockTime r) :
    Accrual s e r := by
  rw [Accrual, if_pos hkind]
  exact h

theorem Accrual.of_same {s : PoolStorage} {e : Event} (hkind : e.msg.accruesInterest = false) :
    Accrual s e s.reserve := by
  rw [Accrual, if_neg (by rw [hkind]; exact Bool.false_ne_true)]

/-- No message changes the lending denomination. -/
theorem PoolStep.lendingDenom_eq {s s' : PoolStorage} {e : Event} (h : PoolStep s e s') :
    s'.contract.lendingDenom = s.contract.lendingDenom :=
  h.bindings_eq.2

/-! ## What a message does to the books -/

/-- The refund of a liquidation is all that it sends in the lending denomination. -/
theorem liquidation_lending_sent {s : PoolStorage} {deps : Deps} {env : Env} {info : MessageInfo}
    {borrower : String} {seize outgoing : Amounts} {t : LiquidationTarget} {p : LiquidationPlan}
    {res : Response} (h : CollateralLedger s)
    (target : t.Valid deps s env info borrower seize)
    (plan : p.Valid s.ownership s.contract info t seize)
    (sends : res.bankSends = (sendMessages info.sender
        (outgoing.toList.map entryCoin)).filterMap CosmosMsg.bankSend? ++
      (refundOf info.sender s.contract.lendingDenom.name p.sent
        p.actualRepay).filterMap CosmosMsg.bankSend?)
    (outgoing_eq : Added ∅ (seizedCoins p seize) outgoing) :
    coinsOf s.contract.lendingDenom.name res.sentCoins + p.actualRepay.val = p.sent.val := by
  have hseized := plan.seizedCoins_eq s.contract.lendingDenom.name
  rw [target.collateral_eq, h.lending_eq_zero] at hseized
  have hout : coinsOf s.contract.lendingDenom.name (outgoing.toList.map entryCoin) = 0 := by
    rw [coinsOf_toList, outgoing_eq.amounts, amountOf_empty]
    omega
  have hsend : coinsOf s.contract.lendingDenom.name (((sendMessages info.sender
      (outgoing.toList.map entryCoin)).filterMap CosmosMsg.bankSend?).flatMap (·.2)) = 0 := by
    unfold sendMessages
    split
    · rfl
    · simpa using hout
  have hrepay : p.actualRepay.val ≤ p.sent.val := by
    rw [plan.repay_eq, Uint.min_val]
    exact Nat.min_le_left _ _
  have hrefund : coinsOf s.contract.lendingDenom.name (((refundOf info.sender
      s.contract.lendingDenom.name p.sent p.actualRepay).filterMap
      CosmosMsg.bankSend?).flatMap (·.2)) = p.sent.val - p.actualRepay.val := by
    unfold refundOf
    split
    · simp [Uint.saturatingSub_val]
    · simp only [List.filterMap_nil, List.flatMap_nil, coinsOf_nil]
      omega
  rw [Response.sentCoins, sends, List.flatMap_append, coinsOf_append, hsend, hrefund]
  omega

/-- The coins of a refund, if there is one. -/
theorem coinsOf_refund {p : Prop} [Decidable p] (a : Addr) (d : String) (amount : Uint128) :
    coinsOf d ((if p then [(a, [(⟨d, amount⟩ : Coin)])] else []).flatMap (·.2)) =
      if p then amount.val else 0 := by
  split <;> simp

/-- What a step does to the books, after its accrual: a loan costs less than
`bi · 10 ^ -18`, and every other message is a move.  `cash` and `cash'` are the balances
before and after, and `out` is what left. -/
theorem PoolStep.books {s s' : PoolStorage} {e : Event} {cash cash' out : Nat}
    (h : CollateralLedger s) (hstep : PoolStep s e s')
    (hout : out ≤ coinsOf s.contract.lendingDenom.name e.response.sentCoins)
    (hcash : cash' + out = cash + coinsOf s.contract.lendingDenom.name e.info.funds) :
    ∃ r, Accrual s e r ∧
      ((∀ amount, e.msg ≠ .borrow amount) → Move (booksOf cash r) (booksOf cash' s'.reserve)) ∧
      ∀ amount, e.msg = .borrow amount →
        r.borrowIndex = s'.reserve.borrowIndex ∧
        (booksOf cash r).surplus - r.borrowIndex.toRat * ulp <
          (booksOf cash' s'.reserve).surplus := by
  have other {r : ReserveStateV1} (hr : Accrual s e r) (hne : ∀ amount, e.msg ≠ .borrow amount)
      (hmove : Move (booksOf cash r) (booksOf cash' s'.reserve)) :
      ∃ r, Accrual s e r ∧
        ((∀ amount, e.msg ≠ .borrow amount) → Move (booksOf cash r) (booksOf cash' s'.reserve)) ∧
        ∀ amount, e.msg = .borrow amount →
          r.borrowIndex = s'.reserve.borrowIndex ∧
          (booksOf cash r).surplus - r.borrowIndex.toRat * ulp <
            (booksOf cash' s'.reserve).surplus :=
    ⟨r, hr, fun _ => hmove, fun amount hamount => absurd hamount (hne amount)⟩
  have received (hnone : out = 0) :
      cash' = cash + coinsOf s.contract.lendingDenom.name e.info.funds := by omega
  unfold Response.sentCoins at hout
  have untouched (hsends : e.response.bankSends = []) (hfunds : e.info.funds = []) :
      cash' = cash := by
    rw [hsends] at hout
    rw [received (Nat.le_zero.mp hout), hfunds, coinsOf_nil, Nat.add_zero]
  cases hstep.effect with
  | neutral msg sends change =>
    rw [sends] at hout
    refine other (.of_same (ExecuteMsg.accruesInterest_of_isNeutral msg))
      (fun _ he => by rw [he] at msg; cases msg) ?_
    rw [change.reserve]
    exact move_receive (received (Nat.le_zero.mp hout))
  | updateSupportedCollateral msg _ sends =>
    rw [sends] at hout
    exact other (.of_same (by rw [msg]; rfl)) (fun _ he => by rw [he] at msg; cases msg)
      (move_receive (received (Nat.le_zero.mp hout)))
  | updateContractConfig msg _ sends =>
    rw [sends] at hout
    exact other (.of_same (by rw [msg]; rfl)) (fun _ he => by rw [he] at msg; cases msg)
      (move_receive (received (Nat.le_zero.mp hout)))
  | updateRateParams msg _ sends accrued =>
    rw [sends] at hout
    exact other (.of_accrued (by rw [msg]; rfl) accrued)
      (fun _ he => by rw [he] at msg; cases msg) (move_receive (received (Nat.le_zero.mp hout)))
  | lend msg funds sends accrued _ minted_eq total_eq =>
    rw [sends] at hout
    have hnone : out = 0 := Nat.le_zero.mp hout
    rw [funds, coinsOf_cons, if_pos rfl, coinsOf_nil] at hcash
    dsimp only at hcash
    exact other (.of_accrued (by rw [msg]; rfl) accrued)
      (fun _ he => by rw [he] at msg; cases msg) (move_lend (by omega) minted_eq total_eq)
  | burn msg sends accrued paid_eq total_eq =>
    rw [sends] at hout
    exact other (.of_accrued (ExecuteMsg.accruesInterest_of_isWithdrawal msg) accrued)
      (fun _ he => by rw [he] at msg; cases msg)
      (move_burn hcash (by simpa using hout) paid_eq total_eq)
  | @borrow amount total debt r msg funds sends accrued debt_eq total_eq =>
    rw [sends] at hout
    rw [funds, coinsOf_nil, Nat.add_zero] at hcash
    obtain ⟨hdelta, -, -⟩ := debtAfterBorrow_eq debt_eq
    refine ⟨r, .of_accrued (by rw [msg]; rfl) accrued, fun hne => absurd msg (hne amount),
      fun _ _ => ⟨rfl, ?_⟩⟩
    exact books_borrow hcash (by simpa using hout) hdelta total_eq
  | @repay amount payoff cancelled left total r msg funds sends accrued payoff_eq cancelled_eq _
      total_eq =>
    rw [sends, coinsOf_refund, Uint.saturatingSub_val, Uint.min_val] at hout
    rw [funds, coinsOf_cons, if_pos rfl, coinsOf_nil] at hcash
    dsimp only at hcash
    have hstays : cash + (amount.min payoff).val ≤ cash' := by
      rw [Uint.min_val]
      split at hout <;> omega
    exact other (.of_accrued (by rw [msg]; rfl) accrued)
      (fun _ he => by rw [he] at msg; cases msg)
      (move_repay hstays payoff_eq cancelled_eq total_eq)
  | addCollateral msg sends =>
    rw [sends] at hout
    exact other (.of_same (by rw [msg]; rfl)) (fun _ he => by rw [he] at msg; cases msg)
      (move_receive (received (Nat.le_zero.mp hout)))
  | @removeCollateral toRemove held totals r msg funds sends accrued _ held_eq =>
    rw [sends] at hout
    have htaken := held_eq.amounts s.contract.lendingDenom.name
    rw [h.lending_eq_zero] at htaken
    have hnone : out = 0 := by
      simp only [List.flatMap_cons, List.flatMap_nil, List.append_nil] at hout
      omega
    exact other (.of_accrued (by rw [msg]; rfl) accrued)
      (fun _ he => by rw [he] at msg; cases msg) (move_receive (received hnone))
  | @liquidate borrower seize outgoing totals t p r' offers msg target plan booked sends
      outgoing_eq =>
    have hsent := liquidation_lending_sent h target plan sends outgoing_eq
    unfold Response.sentCoins at hsent
    rw [plan.funds, coinsOf_cons, if_pos rfl, coinsOf_nil] at hcash
    dsimp only at hcash
    exact other (.of_accrued (by rw [msg]; rfl) target.accrued)
      (fun _ he => by rw [he] at msg; cases msg) (move_liquidate (by omega) target plan booked)
  | eliminateFromReserve msg funds sends accrued deficit_eq reserve_eq =>
    obtain rfl := untouched sends funds
    exact other (.of_accrued (by rw [msg]; rfl) accrued)
      (fun _ he => by rw [he] at msg; cases msg) (move_offset deficit_eq reserve_eq)
  | @eliminateFromBank r funding deficit received applied msg funds sends accrued applied_le
      deficit_eq =>
    rw [sends, coinsOf_refund, Uint.saturatingSub_val] at hout
    rw [funds, coinsOf_cons, if_pos rfl, coinsOf_nil] at hcash
    dsimp only at hcash
    have hstays : cash + applied.val ≤ cash' := by
      split at hout <;> omega
    exact other (.of_accrued (by rw [msg]; rfl) accrued)
      (fun _ he => by rw [he] at msg; cases msg) (move_cover hstays deficit_eq)
  | socializeDeficit msg funds sends accrued _ haircut deficit_eq =>
    obtain rfl := untouched sends funds
    exact other (.of_accrued (by rw [msg]; rfl) accrued)
      (fun _ he => by rw [he] at msg; cases msg) (move_socialize haircut deficit_eq)
  | withdrawReserve msg funds sends accrued _ left_le =>
    rw [sends] at hout
    rw [funds, coinsOf_nil, Nat.add_zero] at hcash
    exact other (.of_accrued (by rw [msg]; rfl) accrued)
      (fun _ he => by rw [he] at msg; cases msg)
      (move_payReserve hcash (by simpa using hout) left_le)

/-! ## The surplus of the world -/

namespace World

/-- The pool's balance in the lending denomination. -/
def cash (address : Addr) (w : World) : Nat := w.bank address w.pool.contract.lendingDenom.name

/-- What the pool holds and is owed, less what it owes, in exact amounts. -/
def surplus (address : Addr) (w : World) : ℚ :=
  w.cash address + w.pool.reserve.totalScaledBorrow.val * w.pool.reserve.borrowIndex.toRat +
    w.pool.reserve.deficitUnderlying.val -
    w.pool.reserve.totalScaledLiquidity.val * w.pool.reserve.liquidityIndex.toRat -
    w.pool.reserve.accruedReserve.val

/-- The world after the accrual of a step, and before the message does anything else. -/
def accrued (w : World) (r : ReserveStateV1) : World :=
  { w with pool := w.pool.setReserveStateV1 r }

end World

/-- What the accrual of a step may cost. -/
def accrualLoss (s : PoolStorage) (e : Event) : ℚ :=
  if e.msg.accruesInterest = true then
    AccruedTo.roundingLoss s.reserve (timeElapsedSeconds s.reserve.lastUpdatedAt e.env.blockTime)
  else 0

/-- What the message of a step may cost: a loan leaves a rounding of the borrow index. -/
def messageLoss (e : Event) (s' : PoolStorage) : ℚ :=
  match e.msg with
  | .borrow _ => s'.reserve.borrowIndex.toRat * ulp
  | _ => 0

/-- At most `(tsb · bi + tsb) · 10 ^ -18`. -/
theorem accrualLoss_le (s : PoolStorage) (e : Event) :
    accrualLoss s e ≤ (s.reserve.totalScaledBorrow.val * s.reserve.borrowIndex.toRat +
      s.reserve.totalScaledBorrow.val) * ulp := by
  have hnonneg : 0 ≤ (s.reserve.totalScaledBorrow.val * s.reserve.borrowIndex.toRat +
      s.reserve.totalScaledBorrow.val) * ulp :=
    mul_nonneg (add_nonneg s.reserve.debt_nonneg (Nat.cast_nonneg _)) ulp_pos.le
  unfold accrualLoss AccruedTo.roundingLoss
  split
  · split
    · exact hnonneg
    · exact le_refl _
  · exact hnonneg

/-- An accrual lowers the surplus of the world by at most its rounding. -/
theorem World.surplus_accrued {w : World} {later : Timestamp} {r : ReserveStateV1}
    (h : AccruedTo w.pool later r) (address : Addr) :
    w.surplus address - AccruedTo.roundingLoss w.pool.reserve
        (timeElapsedSeconds w.pool.reserve.lastUpdatedAt later) ≤
      (w.accrued r).surplus address := by
  have hsurplus := h.surplus
  have hdeficit : (r.deficitUnderlying.val : ℚ) = w.pool.reserve.deficitUnderlying.val := by
    rw [h.deficitUnderlying]
  show (w.cash address : ℚ) + w.pool.reserve.debt + w.pool.reserve.deficitUnderlying.val -
      w.pool.reserve.claims - w.pool.reserve.accruedReserve.val - _ ≤
    w.cash address + r.debt + r.deficitUnderlying.val - r.claims - r.accruedReserve.val
  linarith

/-- The accrual of a step lowers the surplus by at most its loss. -/
theorem Accrual.surplus {w : World} {e : Event} {r : ReserveStateV1}
    (h : Accrual w.pool e r) (address : Addr) :
    w.surplus address - accrualLoss w.pool e ≤ (w.accrued r).surplus address := by
  unfold Accrual at h
  unfold accrualLoss
  split at h
  · rename_i hkind
    rw [if_pos hkind]
    exact World.surplus_accrued h address
  · rename_i hkind
    rw [if_neg hkind, h, sub_zero]
    exact le_refl _

/-- What a transaction does to the surplus, after its accrual. -/
theorem WorldStep.surplus {address : Addr} {w w' : World} {e : Event}
    (h : CollateralLedger w.pool) (hstep : WorldStep address w e w') :
    ∃ r, Accrual w.pool e r ∧
      ((∀ amount, e.msg ≠ .borrow amount) → (w.accrued r).surplus address ≤ w'.surplus address) ∧
      ∀ amount, e.msg = .borrow amount →
        r.borrowIndex = w'.pool.reserve.borrowIndex ∧
        (w.accrued r).surplus address - r.borrowIndex.toRat * ulp < w'.surplus address := by
  obtain ⟨hpool, hbank⟩ := hstep.spec
  obtain ⟨out, hout, hcash⟩ := hbank w.pool.contract.lendingDenom.name
  obtain ⟨r, hr, hother, hborrow⟩ := hpool.books h hout hcash
  have hcash' : w'.cash address = w'.bank address w.pool.contract.lendingDenom.name := by
    rw [World.cash, hpool.lendingDenom_eq]
  have hbefore : (w.accrued r).surplus address =
      (booksOf (w.bank address w.pool.contract.lendingDenom.name) r).surplus := rfl
  have hafter : w'.surplus address =
      (booksOf (w'.bank address w.pool.contract.lendingDenom.name) w'.pool.reserve).surplus := by
    rw [World.surplus, hcash']
    rfl
  refine ⟨r, hr, ?_⟩
  rw [hbefore, hafter]
  exact ⟨fun hne => (hother hne).surplus_le, hborrow⟩

/-- A transaction lowers the surplus by at most the losses of its accrual and its
message. -/
theorem WorldStep.surplus_ge {address : Addr} {w w' : World} {e : Event}
    (h : CollateralLedger w.pool) (hstep : WorldStep address w e w') :
    w.surplus address - (accrualLoss w.pool e + messageLoss e w'.pool) ≤ w'.surplus address := by
  obtain ⟨r, hr, hother, hborrow⟩ := hstep.surplus h
  have haccrual := hr.surplus address
  have hmessage : (w.accrued r).surplus address - messageLoss e w'.pool ≤ w'.surplus address := by
    unfold messageLoss
    split
    · rename_i amount hmsg
      obtain ⟨hindex, hlt⟩ := hborrow amount hmsg
      rw [← hindex]
      exact hlt.le
    · rename_i hne
      rw [sub_zero]
      exact hother fun amount he => hne amount he
  linarith

/-- A new pool is worth what it holds. -/
theorem surplus_deployed {address : Addr} {w : World} {t : Timestamp}
    (h : DeployedAt t w.pool) : w.surplus address = w.cash address := by
  rw [World.surplus, h.fresh.reserve]
  simp [initialReserve]

/-- What the roundings of a run may cost the pool, by the bounds of its steps. -/
def roundingLosses (ts : List (Transition World Event)) : ℚ :=
  (ts.map fun x => accrualLoss x.pre.pool x.label + messageLoss x.label x.post.pool).sum

theorem CollateralLedger.world {address : Addr} (w : World) (e : Event) (w' : World)
    (h : CollateralLedger w.pool) (hstep : WorldStep address w e w') : CollateralLedger w'.pool :=
  h.step hstep.spec.1

/-- The surplus stays at least the initial balance less the losses. -/
theorem WorldStep.surplus_run {address : Addr} {t : Timestamp} {w₀ w : World}
    {ts : List (Transition World Event)} (hdeployed : DeployedAt t w₀.pool)
    (run : Run (WorldStep address) w₀ ts w) :
    (w₀.cash address : ℚ) - roundingLosses ts ≤ w.surplus address := by
  rw [← surplus_deployed hdeployed]
  exact run.surplus_ge (I := fun w => CollateralLedger w.pool) CollateralLedger.world
    (fun _ _ _ h hstep => hstep.surplus_ge h) (CollateralLedger.fresh hdeployed.fresh)

/-- Along every run of transactions from a new pool: an accrual costs at most
`(tsb · bi + tsb) · 10 ^ -18`, taken before it; a loan costs less than `bi · 10 ^ -18`; no
other message costs anything; and so the surplus stays at least the initial balance
less the sum of these bounds. -/
theorem custody_solvency {address : Addr} {t : Timestamp} {w₀ w : World}
    {ts : List (Transition World Event)} (hdeployed : DeployedAt t w₀.pool)
    (run : Run (WorldStep address) w₀ ts w) :
    (∀ x ∈ ts, ∃ r, Accrual x.pre.pool x.label r ∧
      x.pre.surplus address -
          (x.pre.pool.reserve.totalScaledBorrow.val * x.pre.pool.reserve.borrowIndex.toRat +
            x.pre.pool.reserve.totalScaledBorrow.val) * ulp ≤
        (x.pre.accrued r).surplus address ∧
      ((∀ amount, x.label.msg ≠ .borrow amount) →
        (x.pre.accrued r).surplus address ≤ x.post.surplus address) ∧
      ∀ amount, x.label.msg = .borrow amount →
        r.borrowIndex = x.post.pool.reserve.borrowIndex ∧
        (x.pre.accrued r).surplus address - r.borrowIndex.toRat * ulp <
          x.post.surplus address) ∧
      (w₀.cash address : ℚ) - (ts.map fun x =>
        accrualLoss x.pre.pool x.label + messageLoss x.label x.post.pool).sum ≤
          w.surplus address := by
  refine ⟨fun x hx => ?_, WorldStep.surplus_run hdeployed run⟩
  have hheld := run.invariant_pre (I := fun w => CollateralLedger w.pool) CollateralLedger.world
    (CollateralLedger.fresh hdeployed.fresh) x hx
  obtain ⟨r, hr, hother, hborrow⟩ := WorldStep.surplus hheld (run.isStep x hx)
  have haccrual := hr.surplus address
  have hle := accrualLoss_le x.pre.pool x.label
  exact ⟨r, hr, by linarith, hother, hborrow⟩

/-- A pool that holds seven units when it is deployed, lends, and charges interest. -/
theorem custody_solvency_season :
    ∃ w₀ ts w, DeployedAt (Demo.env 0).blockTime w₀.pool ∧ Run (WorldStep "pool") w₀ ts w ∧
      (w.pool.getScaledBorrow "alice").val = 500 ∧
      (7 : ℚ) - (ts.map fun x =>
        accrualLoss x.pre.pool x.label + messageLoss x.label x.post.pool).sum ≤
          w.surplus "pool" := by
  obtain ⟨w₀, ts, w, hdeployed, hbank, run, -, hcheck⟩ := exists_worldRun Demo.worldSeason_ok
  obtain ⟨hcash, hdebt⟩ := Demo.worldSeason_check hcheck
  have hstart : w₀.cash "pool" = 7 := by
    have hdenom : w₀.pool.contract.lendingDenom = w.pool.contract.lendingDenom :=
      (WorldStep.poolRun run).relates
        (R := fun a b => a.contract.lendingDenom = b.contract.lendingDenom)
        (fun _ => rfl) (fun _ _ _ => Eq.trans) fun _ _ _ h => h.lendingDenom_eq.symm
    rw [World.cash, hdenom, hcash, hbank]
    rfl
  have hrun := (custody_solvency hdeployed run).2
  rw [show (Demo.env 0).contractAddress = "pool" from rfl, hstart] at hrun
  exact ⟨w₀, ts, w, hdeployed, run, hdebt, by exact_mod_cast hrun⟩

end DemocratizedPrime
