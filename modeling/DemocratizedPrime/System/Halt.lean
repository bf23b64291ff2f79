import DemocratizedPrime.Pool.Safety.Isolation
import DemocratizedPrime.System.Holders
import DemocratizedPrime.System.LockStep

/-!
# Paused and frozen pools

The owner or the custodian sets the operational state.  A paused pool takes only messages that
change the configuration, and a frozen pool refuses to lend and to borrow.  The token has no such
state, and its holders can send while the pool is paused.

`StandsStill` is what both contracts and the bank keep while the pool is paused.  A `Send` then
fails with the pool's refusal, so nothing at all moves in the token.  `OnlyShrinks` is what is
left when the pool takes no new lender and no new debt: shares and debts are paid off.
-/

namespace DemocratizedPrime

open Result Transitions RepoToken

section

variable {w : Wiring} {tx : Tx} {s s' : PoolStorage} {e : Event} {sys sys' : System}

/-! ## The pool -/

/-- What a paused pool keeps.  New rate parameters still accrue interest, which moves the
indexes and the accrued reserve. -/
structure KeepsPositions (s s' : PoolStorage) : Prop where
  scaledBorrow : s'.scaledBorrow = s.scaledBorrow
  borrowerCollateral : s'.borrowerCollateral = s.borrowerCollateral
  totalCollateralByAsset : s'.totalCollateralByAsset = s.totalCollateralByAsset
  offers : s'.directedSaleOffer = s.directedSaleOffer
  versions : s'.directedSaleVersion = s.directedSaleVersion
  totalScaledLiquidity : s'.reserve.totalScaledLiquidity = s.reserve.totalScaledLiquidity
  totalScaledBorrow : s'.reserve.totalScaledBorrow = s.reserve.totalScaledBorrow
  deficit : s'.reserve.deficitUnderlying = s.reserve.deficitUnderlying

theorem KeepsPositions.refl (s : PoolStorage) : KeepsPositions s s :=
  ⟨rfl, rfl, rfl, rfl, rfl, rfl, rfl, rfl⟩

theorem KeepsPositions.trans {s'' : PoolStorage} (h : KeepsPositions s s')
    (h' : KeepsPositions s' s'') : KeepsPositions s s'' where
  scaledBorrow := h'.scaledBorrow.trans h.scaledBorrow
  borrowerCollateral := h'.borrowerCollateral.trans h.borrowerCollateral
  totalCollateralByAsset := h'.totalCollateralByAsset.trans h.totalCollateralByAsset
  offers := h'.offers.trans h.offers
  versions := h'.versions.trans h.versions
  totalScaledLiquidity := h'.totalScaledLiquidity.trans h.totalScaledLiquidity
  totalScaledBorrow := h'.totalScaledBorrow.trans h.totalScaledBorrow
  deficit := h'.deficit.trans h.deficit

/-- What the guards of the operational state let through. -/
theorem PoolStep.guards (h : PoolStep s e s') :
    (e.msg.allowedWhenPaused = true ∨ s.contract.operationalState ≠ .paused) ∧
      (s.contract.operationalState ≠ .frozen ∨ e.msg.isLendOrBorrow = false) := by
  simp only [PoolStep, execute, bind_eq_ok, ensure_eq_ok, exists_const] at h
  exact ⟨h.1, h.2.1⟩

/-- A message that a paused pool takes comes without funds, returns no messages, and moves
nobody's position. -/
theorem PoolStep.whenAllowed (h : PoolStep s e s') (hallowed : e.msg.allowedWhenPaused = true) :
    KeepsPositions s s' ∧ e.info.funds = [] ∧ e.response.messages = [] := by
  have hd : dispatch e.deps s e.env e.info e.msg = .ok (s', e.response) := execute_eq_ok h
  cases hm : e.msg with
  | updateOwnership action =>
    rw [hm] at hd
    obtain ⟨_, rfl, hfunds, hmessages⟩ := updateOwnership_spec hd
    exact ⟨⟨rfl, rfl, rfl, rfl, rfl, rfl, rfl, rfl⟩, hfunds, hmessages⟩
  | updateSupportedCollateral toUpdate toRemove =>
    rw [hm] at hd
    obtain ⟨c', hfunds, -, -, -, -, rfl, hmessages⟩ := updateSupportedCollateral_spec hd
    exact ⟨⟨rfl, rfl, rfl, rfl, rfl, rfl, rfl, rfl⟩, hfunds, hmessages⟩
  | setOperationalState state =>
    rw [hm] at hd
    obtain ⟨hfunds, rfl, hmessages⟩ := setOperationalState_spec hd
    exact ⟨⟨rfl, rfl, rfl, rfl, rfl, rfl, rfl, rfl⟩, hfunds, hmessages⟩
  | setLenderRequiredAttrs attrs =>
    rw [hm] at hd
    obtain ⟨hfunds, rfl, hmessages⟩ := setLenderRequiredAttrs_spec hd
    exact ⟨⟨rfl, rfl, rfl, rfl, rfl, rfl, rfl, rfl⟩, hfunds, hmessages⟩
  | setBorrowerRequiredAttrs attrs =>
    rw [hm] at hd
    obtain ⟨hfunds, rfl, hmessages⟩ := setBorrowerRequiredAttrs_spec hd
    exact ⟨⟨rfl, rfl, rfl, rfl, rfl, rfl, rfl, rfl⟩, hfunds, hmessages⟩
  | updateContractConfig params =>
    rw [hm] at hd
    obtain ⟨c', hfunds, -, -, -, -, rfl, hmessages⟩ := updateContractConfig_spec hd
    exact ⟨⟨rfl, rfl, rfl, rfl, rfl, rfl, rfl, rfl⟩, hfunds, hmessages⟩
  | updateRateParams rateParams =>
    rw [hm] at hd
    obtain ⟨r, hfunds, -, hr, rfl, hmessages⟩ := updateRateParams_spec hd
    exact ⟨⟨rfl, rfl, rfl, rfl, rfl, hr.totalScaledLiquidity, hr.totalScaledBorrow,
      hr.deficitUnderlying⟩, hfunds, hmessages⟩
  | setBorrowerRequireCommit address require =>
    rw [hm] at hd
    obtain ⟨hfunds, -, rfl, hmessages⟩ := setBorrowerRequireCommit_spec hd
    exact ⟨⟨rfl, rfl, rfl, rfl, rfl, rfl, rfl, rfl⟩, hfunds, hmessages⟩
  | setLenderRequireCommitOnExit address require =>
    rw [hm] at hd
    obtain ⟨hfunds, -, rfl, hmessages⟩ := setLenderRequireCommitOnExit_spec hd
    exact ⟨⟨rfl, rfl, rfl, rfl, rfl, rfl, rfl, rfl⟩, hfunds, hmessages⟩
  | _ =>
    rw [hm] at hallowed
    cases hallowed

/-- A pool that is not active lends and borrows nothing: a paused one takes neither message. -/
theorem PoolStep.whenClosed (h : PoolStep s e s')
    (hclosed : s.contract.operationalState ≠ .active) : e.msg.isLendOrBorrow = false := by
  obtain ⟨hpaused, hfrozen⟩ := h.guards
  cases hstate : s.contract.operationalState with
  | active => exact absurd hstate hclosed
  | frozen => exact hfrozen.resolve_left fun hne => hne hstate
  | paused =>
    have hallowed := hpaused.resolve_right fun hne => hne hstate
    cases hm : e.msg with
    | lend =>
      rw [hm] at hallowed
      cases hallowed
    | borrow amount =>
      rw [hm] at hallowed
      cases hallowed
    | _ => rfl

/-- Without loans no total grows. -/
theorem PoolStep.totals_le (h : PoolStep s e s') (hmsg : e.msg.isLendOrBorrow = false) :
    s'.reserve.totalScaledLiquidity.val ≤ s.reserve.totalScaledLiquidity.val ∧
      s'.reserve.totalScaledBorrow.val ≤ s.reserve.totalScaledBorrow.val := by
  have accrue {r : ReserveStateV1} {t : Timestamp} (hr : AccruedTo s t r) :
      r.totalScaledLiquidity.val = s.reserve.totalScaledLiquidity.val ∧
        r.totalScaledBorrow.val = s.reserve.totalScaledBorrow.val := by
    rw [hr.totalScaledLiquidity, hr.totalScaledBorrow]
    exact ⟨rfl, rfl⟩
  cases h.effect with
  | neutral _ _ change =>
    rw [change.reserve]
    exact ⟨Nat.le_refl _, Nat.le_refl _⟩
  | lend msg =>
    rw [msg] at hmsg
    cases hmsg
  | borrow msg =>
    rw [msg] at hmsg
    cases hmsg
  | updateSupportedCollateral => exact ⟨Nat.le_refl _, Nat.le_refl _⟩
  | updateContractConfig => exact ⟨Nat.le_refl _, Nat.le_refl _⟩
  | addCollateral => exact ⟨Nat.le_refl _, Nat.le_refl _⟩
  | updateRateParams _ _ _ accrued => exact ⟨(accrue accrued).1.le, (accrue accrued).2.le⟩
  | removeCollateral _ _ _ accrued => exact ⟨(accrue accrued).1.le, (accrue accrued).2.le⟩
  | eliminateFromReserve _ _ _ accrued => exact ⟨(accrue accrued).1.le, (accrue accrued).2.le⟩
  | eliminateFromBank _ _ _ accrued => exact ⟨(accrue accrued).1.le, (accrue accrued).2.le⟩
  | withdrawReserve _ _ _ accrued => exact ⟨(accrue accrued).1.le, (accrue accrued).2.le⟩
  | @burn lender burned paid total r _ _ accrued _ total_eq =>
    obtain ⟨hliquidity, hborrow⟩ := accrue accrued
    refine ⟨?_, hborrow.le⟩
    show total.val ≤ _
    omega
  | @repay amount payoff cancelled left total r _ _ _ accrued _ _ _ total_eq =>
    obtain ⟨hliquidity, hborrow⟩ := accrue accrued
    refine ⟨hliquidity.le, ?_⟩
    show total.val ≤ _
    omega
  | @liquidate borrower seize outgoing totals t p r' offers _ target _ booked =>
    obtain ⟨hliquidity, hborrow⟩ := accrue target.accrued
    obtain ⟨hframe, htotal⟩ := bookRepayment_frame booked
    refine ⟨?_, ?_⟩
    · show r'.totalScaledLiquidity.val ≤ _
      rw [hframe]
      exact hliquidity.le
    · show r'.totalScaledBorrow.val ≤ _
      omega
  | @socializeDeficit maxAmount amount deficit r cut _ _ _ accrued _ haircut =>
    obtain ⟨hliquidity, hborrow⟩ := accrue accrued
    refine ⟨?_, ?_⟩
    · show cut.totalScaledLiquidity.val ≤ _
      rw [applyHaircut_frame haircut]
      exact hliquidity.le
    · show cut.totalScaledBorrow.val ≤ _
      rw [applyHaircut_frame haircut]
      exact hborrow.le

/-- The message sets the operational state. -/
theorem PoolStep.operationalState_set {state : OperationalState} (h : PoolStep s e s')
    (hmsg : e.msg = .setOperationalState state) : s'.contract.operationalState = state := by
  have hd : dispatch e.deps s e.env e.info e.msg = .ok (s', e.response) := execute_eq_ok h
  rw [hmsg] at hd
  obtain ⟨-, rfl, -⟩ := setOperationalState_spec hd
  rfl

/-! ## Transactions while the pool is paused -/

/-- Nobody's position, repo tokens or share of the pool's coins move. -/
structure StandsStill (w : Wiring) (sys sys' : System) : Prop where
  positions : KeepsPositions sys.pool sys'.pool
  balances : sys'.token.balances = sys.token.balances
  tokenInfo : sys'.token.tokenInfo = sys.token.tokenInfo
  coins : ∀ denom, sys'.bank w.pool denom = sys.bank w.pool denom

theorem StandsStill.refl (w : Wiring) (sys : System) : StandsStill w sys sys :=
  ⟨.refl _, rfl, rfl, fun _ => rfl⟩

theorem StandsStill.trans {sys'' : System} (h : StandsStill w sys sys')
    (h' : StandsStill w sys' sys'') : StandsStill w sys sys'' where
  positions := h.positions.trans h'.positions
  balances := h'.balances.trans h.balances
  tokenInfo := h'.tokenInfo.trans h.tokenInfo
  coins denom := (h'.coins denom).trans (h.coins denom)

/-- The transaction sets the operational state. -/
def Tx.Sets (tx : Tx) (state : OperationalState) : Prop :=
  tx.msg = .pool (.setOperationalState state)

/-- A call of a paused pool changes its configuration, and nothing else anywhere. -/
theorem callPool_whenPaused {info : MessageInfo} {msg : ExecuteMsg}
    (h : sys.callPool w tx info msg = .ok sys')
    (hpaused : sys.pool.contract.operationalState = .paused) :
    ∃ pool response, PoolStep sys.pool ⟨⟨tx.deps.askToken w.token sys.token, tx.env w.pool, info,
        msg⟩, response⟩ pool ∧ msg.allowedWhenPaused = true ∧
      KeepsPositions sys.pool pool ∧ info.funds = [] ∧ sys' = { sys with pool } := by
  simp only [System.callPool, bind_eq_ok, Prod.exists] at h
  obtain ⟨pool, response, hexecute, hmessages⟩ := h
  have hstep : PoolStep sys.pool ⟨⟨tx.deps.askToken w.token sys.token, tx.env w.pool, info, msg⟩,
    response⟩ pool := hexecute
  have hallowed := hstep.guards.1.resolve_right fun hne => hne hpaused
  obtain ⟨hkeeps, hfunds, hquiet⟩ := hstep.whenAllowed hallowed
  dsimp only at hquiet
  rw [hquiet, List.foldlM_nil, pure_eq_ok] at hmessages
  exact ⟨pool, response, hstep, hallowed, hkeeps, hfunds, hmessages.symm⟩

/-- A transaction while the pool is paused moves nothing, and the pool stays paused unless the
transaction sets another state. -/
theorem SystemStep.whenPaused (h : SystemStep w sys tx sys') (hwired : Wired w sys.token)
    (hpaused : sys.pool.contract.operationalState = .paused) :
    StandsStill w sys sys' ∧
      ((∀ state, tx.Sets state → state = .paused) →
        sys'.pool.contract.operationalState = .paused) := by
  simp only [SystemStep, System.transact, bind_eq_ok, ensure_eq_ok, exists_const] at h
  obtain ⟨⟨hpool, htoken⟩, h⟩ := h
  split at h
  · rename_i msg htx
    simp only [bind_eq_ok] at h
    obtain ⟨bank, hpaid, h⟩ := h
    obtain ⟨pool, response, hstep, -, hkeeps, hfunds, rfl⟩ := callPool_whenPaused h hpaused
    refine ⟨⟨hkeeps, rfl, rfl, fun denom => ?_⟩, fun hsets => ?_⟩
    · have hcoins := payCoins_spec hpaid w.pool denom
      rw [hfunds] at hcoins
      simpa using hcoins
    · show pool.contract.operationalState = .paused
      by_cases hmsg : ∃ state, msg = .setOperationalState state
      · obtain ⟨state, rfl⟩ := hmsg
        rw [hstep.operationalState_set rfl]
        exact hsets state htx
      · rw [hstep.operationalState_eq fun state heq => hmsg ⟨state, heq⟩]
        exact hpaused
  · simp only [bind_eq_ok] at h
    obtain ⟨bank, hpaid, h⟩ := h
    obtain ⟨token, response, -, ⟨-, hbalances, hinfo, rfl⟩ | ⟨amount, body, -, -, -, hcall⟩⟩ :=
      callToken_cases h hpool hwired
    · refine ⟨⟨.refl _, hbalances, hinfo, fun denom => ?_⟩, fun _ => hpaused⟩
      have hcoins := payCoins_spec hpaid w.pool denom
      rw [if_neg fun he => hpool he.symm, if_neg w.distinct] at hcoins
      exact hcoins
    · -- The pool refuses the call that a `Send` ends with.
      obtain ⟨_, _, _, hallowed, -⟩ := callPool_whenPaused hcall hpaused
      cases hallowed

/-- While nobody reopens it and its token stays wired to it, a paused pool stands still under
every sequence of transactions: no position, no offer, no balance of the repo token and no coin
of the pool moves. -/
theorem paused_pool_stands_still {ts : List (Transition System Tx)}
    (run : Run (SystemStep w) sys ts sys') (wired : Wired w sys.token)
    (rewired : ∀ x ∈ ts, Wired w x.post.token)
    (paused : sys.pool.contract.operationalState = .paused)
    (closed : ∀ x ∈ ts, ∀ state, x.label.Sets state → state = .paused) :
    sys'.pool.contract.operationalState = .paused ∧ StandsStill w sys sys' := by
  have hend := run.invariant_of_transitions
    (I := fun x => Wired w x.token ∧ x.pool.contract.operationalState = .paused ∧
      StandsStill w sys x)
    (P := fun x => Wired w x.post.token ∧ ∀ state, x.label.Sets state → state = .paused)
    (fun _ _ _ ⟨hwired, hpaused, hstill⟩ ⟨hrewired, hclosed⟩ hstep => by
      obtain ⟨hstill', hpaused'⟩ := SystemStep.whenPaused hstep hwired hpaused
      exact ⟨hrewired, hpaused' hclosed, hstill.trans hstill'⟩)
    (fun x hx => ⟨rewired x hx, closed x hx⟩) ⟨wired, paused, .refl w sys⟩
  exact hend.2

end

namespace Demo

/-- A lender lends, Alice borrows, and the owner sets the state. -/
def openedThen (state : OperationalState) : List Tx :=
  [tx "lender" [⟨"usd", 1000⟩] (.pool .lend), tx "alice" [⟨"gold", 100⟩] (.pool .addCollateral),
    tx "alice" [] (.pool (.borrow 500)), tx "owner" [] (.pool (.setOperationalState state))]

/-- While the pool is paused, and a year later, the custodian sets rates and attributes, and the
owner pauses it once more. -/
def whilePaused : List Tx :=
  [tx "custodian" [] (.pool (.updateRateParams msg.rateParams)),
    tx "custodian" [] (.pool (.setLenderRequiredAttrs ["kyc.pb"])),
    tx "owner" [] (.pool (.setOperationalState .paused))].map
      fun t => { t with blockTime := (env 31536000).blockTime }

/-- Whether the transaction sets no other state, and leaves the token wired. -/
def setsOnly (state : OperationalState) (t : Transition System Tx) : Bool :=
  decide (t.post.token.config = ⟨wiring.pool, some wiring.pool⟩) &&
    match t.label.msg with
    | .pool (.setOperationalState state') => decide (state' = state)
    | _ => true

theorem setsOnly_check {state : OperationalState} {t : Transition System Tx}
    (h : setsOnly state t = true) :
    Wired wiring t.post.token ∧ ∀ state', t.label.Sets state' → state' = state := by
  rw [setsOnly, Bool.and_eq_true, decide_eq_true_eq] at h
  refine ⟨h.1, fun state' hsets => ?_⟩
  have hmsg := h.2
  rw [hsets] at hmsg
  exact of_decide_eq_true hmsg

/-- Whether the two can act while the pool is paused, and what there is to keep. -/
def pausedCheck (sys : System) : Bool :=
  match replayTxs wiring sys whilePaused with
  | .ok (ts, _) =>
    ts.all (setsOnly .paused) && decide (sys.pool.contract.operationalState = .paused) &&
      decide (sys.token.config = ⟨wiring.pool, some wiring.pool⟩) &&
      decide (sys.token.balance "lender" = 1000) && decide (sys.bank "pool" "usd" = 507)
  | .error _ => false

theorem pausedCheck_ok : transactCheck wiring (deps 10) (env 0) ⟨"owner", []⟩ msg tokenMsg bank
    (openedThen .paused) pausedCheck = true := by
  decide +kernel

end Demo

/-- The rates and the attributes change, and the lender still has the 1000 repo tokens of
the loan and the pool the 507 coins that Alice did not borrow. -/
theorem paused_pool_stands_still_year :
    ∃ sys₀ history sys ts sys', SystemStart Demo.wiring sys₀ ∧
      Run (SystemStep Demo.wiring) sys₀ history sys ∧ Run (SystemStep Demo.wiring) sys ts sys' ∧
      ts.map (fun t => t.label) = Demo.whilePaused ∧
      sys'.pool.contract.operationalState = .paused ∧ sys'.token.balance "lender" = 1000 ∧
      sys'.bank "pool" "usd" = 507 := by
  obtain ⟨sys₀, history, sys, start, past, -, -, hcheck⟩ := exists_systemRun Demo.pausedCheck_ok
  unfold Demo.pausedCheck at hcheck
  split at hcheck
  · rename_i ts sys' hreplay
    simp only [Bool.and_eq_true, List.all_eq_true, decide_eq_true_eq] at hcheck
    obtain ⟨⟨⟨⟨hsets, hpaused⟩, hwired⟩, hlent⟩, hleft⟩ := hcheck
    obtain ⟨run, htxs⟩ := replayTxs_run hreplay
    obtain ⟨hstill, positions, balances, info, coins⟩ := paused_pool_stands_still run hwired
      (fun x hx => (Demo.setsOnly_check (hsets x hx)).1) hpaused
      (fun x hx => (Demo.setsOnly_check (hsets x hx)).2)
    refine ⟨sys₀, history, sys, ts, sys', start, past, run, htxs, hstill, ?_, ?_⟩
    · rw [TokenStorage.balance, balances]
      exact hlent
    · rw [← hleft]
      exact coins "usd"
  · cases hcheck

section

variable {w : Wiring} {tx : Tx} {e : Event} {sys sys' : System}

/-! ## Transactions while the pool is not active -/

/-- Shares and debts are paid off, and none is added. -/
structure OnlyShrinks (sys sys' : System) : Prop where
  supply : sys'.token.tokenInfo.totalSupply.val ≤ sys.token.tokenInfo.totalSupply.val
  totalScaledLiquidity : sys'.pool.reserve.totalScaledLiquidity.val ≤
    sys.pool.reserve.totalScaledLiquidity.val
  totalScaledBorrow : sys'.pool.reserve.totalScaledBorrow.val ≤
    sys.pool.reserve.totalScaledBorrow.val
  debts : ∀ b, (sys'.pool.getScaledBorrow b).val ≤ (sys.pool.getScaledBorrow b).val

theorem OnlyShrinks.refl (sys : System) : OnlyShrinks sys sys :=
  ⟨Nat.le_refl _, Nat.le_refl _, Nat.le_refl _, fun _ => Nat.le_refl _⟩

theorem OnlyShrinks.trans {sys'' : System} (h : OnlyShrinks sys sys')
    (h' : OnlyShrinks sys' sys'') : OnlyShrinks sys sys'' where
  supply := Nat.le_trans h'.supply h.supply
  totalScaledLiquidity := Nat.le_trans h'.totalScaledLiquidity h.totalScaledLiquidity
  totalScaledBorrow := Nat.le_trans h'.totalScaledBorrow h.totalScaledBorrow
  debts b := Nat.le_trans (h'.debts b) (h.debts b)

/-- The supply follows the scaled total, so it is enough to look at the pool. -/
theorem OnlyShrinks.ofStep (hstep : PoolStep sys.pool e sys'.pool)
    (hmsg : e.msg.isLendOrBorrow = false) (hsys : InStep w 0 sys) (hsys' : InStep w 0 sys') :
    OnlyShrinks sys sys' := by
  obtain ⟨hliquidity, hborrow⟩ := hstep.totals_le hmsg
  refine ⟨?_, hliquidity, hborrow, fun b => ?_⟩
  · rw [hsys.supply, hsys'.supply]
    exact hliquidity
  · by_contra hup
    obtain ⟨-, amount, hborrow⟩ := hstep.debtUp (Nat.lt_of_not_le hup)
    rw [hborrow] at hmsg
    cases hmsg

/-- A transaction while the pool is not active adds nothing, and leaves it so unless it sets the
state. -/
theorem SystemStep.whenClosed (h : SystemStep w sys tx sys') (hwired : Wired w sys.token)
    (hsys : InStep w 0 sys) (hclosed : sys.pool.contract.operationalState ≠ .active) :
    OnlyShrinks sys sys' ∧
      (¬ tx.Sets .active → sys'.pool.contract.operationalState ≠ .active) := by
  have hsys' := SystemStep.inStep h hwired hsys
  -- Which account is followed does not matter for the pool's part.
  cases h.txEffect hwired hsys.bound (fun he => w.distinct he.symm) with
  | @pool e _ _ step tx_msg =>
    refine ⟨.ofStep step (step.whenClosed hclosed) hsys hsys', fun hsets => ?_⟩
    by_cases hmsg : ∃ state, e.msg = .setOperationalState state
    · obtain ⟨state, hstate⟩ := hmsg
      rw [step.operationalState_set hstate]
      rintro rfl
      exact hsets (by rw [Tx.Sets, tx_msg, hstate])
    · rw [step.operationalState_eq fun state heq => hmsg ⟨state, heq⟩]
      exact hclosed
  | @send e _ _ _ _ step _ msg =>
    refine ⟨.ofStep step (step.whenClosed hclosed) hsys hsys', fun _ => ?_⟩
    rw [step.operationalState_eq fun state heq => by rw [msg] at heq; cases heq]
    exact hclosed
  | quiet _ pool =>
    refine ⟨⟨?_, ?_, ?_, fun b => ?_⟩, fun _ => ?_⟩
    · rw [hsys.supply, hsys'.supply, pool]
    · rw [pool]
    · rw [pool]
    · rw [pool]
    · rw [pool]
      exact hclosed

/-- While nobody makes it active again and its token stays wired to it, a frozen or paused pool
only pays off: under every sequence of transactions no repo tokens are created and no debt grows. -/
theorem closed_pool_only_shrinks {sys₀ : System} {past ts : List (Transition System Tx)}
    (start : SystemStart w sys₀) (before : Run (SystemStep w) sys₀ past sys)
    (run : Run (SystemStep w) sys ts sys') (wired : ∀ x ∈ past, Wired w x.post.token)
    (rewired : ∀ x ∈ ts, Wired w x.post.token)
    (closed : sys.pool.contract.operationalState ≠ .active)
    (kept : ∀ x ∈ ts, ¬ x.label.Sets .active) :
    sys'.pool.contract.operationalState ≠ .active ∧ OnlyShrinks sys sys' := by
  obtain ⟨hsys, hwired⟩ := start.inStep_run before wired
  have hend := run.invariant_of_transitions
    (I := fun x => InStep w 0 x ∧ Wired w x.token ∧
      x.pool.contract.operationalState ≠ .active ∧ OnlyShrinks sys x)
    (P := fun x => Wired w x.post.token ∧ ¬ x.label.Sets .active)
    (fun _ _ _ ⟨hinStep, hwired, hclosed, hshrinks⟩ ⟨hrewired, hsets⟩ hstep => by
      obtain ⟨hshrinks', hclosed'⟩ := SystemStep.whenClosed hstep hwired hinStep hclosed
      exact ⟨SystemStep.inStep hstep hwired hinStep, hrewired, hclosed' hsets,
        hshrinks.trans hshrinks'⟩)
    (fun x hx => ⟨rewired x hx, kept x hx⟩) ⟨hsys, hwired, closed, .refl sys⟩
  exact hend.2.2

end

namespace Demo

/-- In a frozen pool the lender withdraws, Alice repays, and the owner withdraws for the lender. -/
def paidOff : List Tx :=
  [tx "lender" [] (.token (.send "pool" 100 (.ok (.withdraw 33 none)))),
    tx "alice" [⟨"usd", 100⟩] (.pool .repay),
    tx "owner" [] (.pool (.setOperationalState .frozen)),
    tx "owner" [] (.pool (.withdraw "lender" (some 150) none))]

/-- The pool is frozen and stays so, and the supply goes from 1000 down to 817. -/
def frozenCheck (sys : System) : Bool :=
  match replayTxs wiring sys paidOff with
  | .ok (ts, sys') =>
    ts.all (setsOnly .frozen) && decide (sys.pool.contract.operationalState = .frozen) &&
      decide (sys.token.tokenInfo.totalSupply = 1000) &&
      decide (sys'.token.tokenInfo.totalSupply = 817)
  | .error _ => false

theorem frozenCheck_ok : transactCheck wiring (deps 10) (env 0) ⟨"owner", []⟩ msg tokenMsg bank
    (openedThen .frozen) frozenCheck = true := by
  decide +kernel

end Demo

/-- The lender gets 183 of the 1000 repo tokens paid off while the pool is frozen. -/
theorem closed_pool_only_shrinks_frozen :
    ∃ sys₀ history sys ts sys', SystemStart Demo.wiring sys₀ ∧
      Run (SystemStep Demo.wiring) sys₀ history sys ∧ Run (SystemStep Demo.wiring) sys ts sys' ∧
      ts.map (fun t => t.label) = Demo.paidOff ∧
      sys.token.tokenInfo.totalSupply = 1000 ∧ sys'.token.tokenInfo.totalSupply = 817 ∧
      sys'.pool.contract.operationalState ≠ .active ∧ OnlyShrinks sys sys' := by
  obtain ⟨sys₀, history, sys, start, past, wired, -, hcheck⟩ :=
    exists_systemRun Demo.frozenCheck_ok
  unfold Demo.frozenCheck at hcheck
  split at hcheck
  · rename_i ts sys' hreplay
    simp only [Bool.and_eq_true, List.all_eq_true, decide_eq_true_eq] at hcheck
    obtain ⟨⟨⟨hsets, hfrozen⟩, hbefore⟩, hafter⟩ := hcheck
    obtain ⟨run, htxs⟩ := replayTxs_run hreplay
    have kept : ∀ x ∈ ts, ¬ x.label.Sets .active := by
      intro x hx hactive
      cases (Demo.setsOnly_check (hsets x hx)).2 _ hactive
    obtain ⟨hclosed, hshrinks⟩ := closed_pool_only_shrinks start past run wired
      (fun x hx => (Demo.setsOnly_check (hsets x hx)).1)
      (by rw [hfrozen]; exact OperationalState.noConfusion) kept
    exact ⟨sys₀, history, sys, ts, sys', start, past, run, htxs, hbefore, hafter, hclosed, hshrinks⟩
  · cases hcheck

end DemocratizedPrime
