import DemocratizedPrime.Pool.Invariants.InterestTime
import DemocratizedPrime.System.Holders
import DemocratizedPrime.System.LockStep
import DemocratizedPrime.System.Replay
import Mathlib.Algebra.BigOperators.Ring.List

/-!
# What a lender can get out of rounding

In one block the liquidity index does not rise, so what an account owns is worth its
balance at the index of the block.  A loan adds at most its amount to that worth, and a
withdrawal takes at least its payment from it: `SystemStep.worth`.  Along a run the
payments are therefore covered by the worth at the start and the loans.

What a withdrawal pays is also covered by what it burns, at the index at the start, so
nothing is gained by withdrawing in pieces.
-/

namespace DemocratizedPrime

open Result Transitions RepoToken

variable {w : Wiring} {tx : Tx} {sys sys' : System} {account : Addr} {T : Timestamp}

/-! ## Loans and payments -/

/-- What a loan of the account brings in. -/
def Event.lentBy (account : Addr) (denom : String) (e : Event) : Nat :=
  match e.msg with
  | .lend => if e.info.sender = account then coinsOf denom e.info.funds else 0
  | _ => 0

/-- What a withdrawal of the account pays. -/
def Event.paidTo (account : Addr) (denom : String) (e : Event) : Nat :=
  if e.msg.withdrawer? = some account then coinsOf denom e.response.sentCoins else 0

/-- What a withdrawal of the account burns. -/
def Event.burnedFor (account : Addr) (e : Event) : Nat :=
  if e.msg.withdrawer? = some account then
    totalOf RepoTokenMsg.burned e.response.tokenCalls
  else 0

/-- Somebody else passes tokens on to the account. -/
def Event.forwardsTo (account : Addr) (e : Event) : Bool :=
  match e.msg with
  | .receive cw20Msg =>
    match cw20Msg.payload with
    | .ok (.transfer recipient _) | .ok (.transferExact recipient) =>
      decide (recipient = account ∧ cw20Msg.sender ≠ account)
    | _ => false
  | _ => false

theorem Event.forwardsTo_eq {e : Event} {holder recipient : Addr} {received : Uint128}
    {payload : Cw20ReceivePayload} {exact : Bool}
    (hmsg : e.msg = .receive ⟨holder, received, .ok payload⟩)
    (hbody : payload.Transfers exact recipient) :
    e.forwardsTo account = decide (recipient = account ∧ holder ≠ account) := by
  rw [Event.forwardsTo, hmsg]
  cases hbody with
  | amount => rfl
  | all => rfl

/-- A quantity of the pool's part of a transaction. -/
def ofPool (w : Wiring) (f : String → Event → Nat) (x : Transition System Tx) : Nat :=
  match x.pre.poolEvent w x.label with
  | some e => f x.pre.pool.contract.lendingDenom.name e
  | none => 0

/-- The base units that the account lends in a transaction. -/
def lentBy (w : Wiring) (account : Addr) : Transition System Tx → Nat :=
  ofPool w fun denom e => e.lentBy account denom

/-- The base units that the pool pays it out. -/
def paidTo (w : Wiring) (account : Addr) : Transition System Tx → Nat :=
  ofPool w fun denom e => e.paidTo account denom

/-- The scaled units that are burned for that. -/
def burnedFor (w : Wiring) (account : Addr) : Transition System Tx → Nat :=
  ofPool w fun _ e => e.burnedFor account

/-! ## The index of a block -/

/-- The liquidity index that a message in a block at this time is served with, where it
can be served. -/
def PoolStorage.indexAt (s : PoolStorage) (t : Timestamp) : Nat :=
  match computeEffectiveReserve s t s.contract.rateParams with
  | .ok r => r.liquidityIndex.atomics
  | .error _ => 0

theorem AccruedTo.indexAt {s : PoolStorage} {r : ReserveStateV1} (h : AccruedTo s T r) :
    s.indexAt T = r.liquidityIndex.atomics := by
  unfold PoolStorage.indexAt
  rw [h]

/-- The reserve can be accrued to the time. -/
def Accruable (s : PoolStorage) (t : Timestamp) : Prop := ∃ r, AccruedTo s t r

theorem PoolStep.indexAt_le {s s' : PoolStorage} {e : Event} (h : PoolStep s e s')
    (hs : Accruable s e.env.blockTime) :
    Accruable s' e.env.blockTime ∧ s'.indexAt e.env.blockTime ≤ s.indexAt e.env.blockTime := by
  obtain ⟨r, hr⟩ := hs
  obtain ⟨r', hr', hle⟩ := h.accruedAgain hr
  rw [hr.indexAt, hr'.indexAt]
  exact ⟨⟨r', hr'⟩, hle⟩

/-! ## What an account's tokens are worth -/

/-- The balance at the index of a block. -/
def System.worth (sys : System) (account : Addr) (t : Timestamp) : Nat :=
  (sys.token.balance account).val * sys.pool.indexAt t

/-- A loan mints units that are worth at most its amount, and a withdrawal pays at most
what the units are worth that it burns. -/
theorem AccountEffect.worth {e : Event} (h : AccountEffect sys e account sys')
    (hstep : PoolStep sys.pool e sys'.pool) (hs : Accruable sys.pool e.env.blockTime)
    (hothers : e.forwardsTo account = false) :
    sys'.worth account e.env.blockTime + decimalFractional *
          e.paidTo account sys.pool.contract.lendingDenom.name ≤
        sys.worth account e.env.blockTime + decimalFractional *
          e.lentBy account sys.pool.contract.lendingDenom.name ∧
      decimalFractional * e.paidTo account sys.pool.contract.lendingDenom.name ≤
        e.burnedFor account * sys.pool.indexAt e.env.blockTime := by
  obtain ⟨-, hindex⟩ := hstep.indexAt_le hs
  have hkept (hbalance : (sys'.token.balance account).val ≤ (sys.token.balance account).val) :
      sys'.worth account e.env.blockTime ≤ sys.worth account e.env.blockTime :=
    Nat.mul_le_mul hbalance hindex
  cases h with
  | @lend amount minted r msg sender funds accrued minted_eq index balance =>
    have hpaid : e.paidTo account sys.pool.contract.lendingDenom.name = 0 := by
      simp [Event.paidTo, msg, ExecuteMsg.withdrawer?]
    have hlent : e.lentBy account sys.pool.contract.lendingDenom.name = amount.val := by
      simp [Event.lentBy, msg, sender, funds]
    have hminted : minted.val * sys.pool.indexAt e.env.blockTime ≤
        decimalFractional * amount.val := by
      rw [minted_eq, accrued.indexAt, Nat.mul_comm decimalFractional]
      exact Nat.div_mul_le_self _ _
    have hworth : sys'.worth account e.env.blockTime ≤
        (sys.token.balance account).val * sys.pool.indexAt e.env.blockTime +
          minted.val * sys.pool.indexAt e.env.blockTime := by
      rw [← Nat.add_mul, ← balance]
      exact Nat.mul_le_mul_left _ hindex
    rw [hpaid, hlent]
    refine ⟨?_, Nat.zero_le _⟩
    show _ ≤ (sys.token.balance account).val * sys.pool.indexAt e.env.blockTime + _
    omega
  | @withdraw burned paid withdrawer burned_eq sends redeemed balance =>
    obtain ⟨r, hr, hlast⟩ := redeemed.accrued
    have hpaid : e.paidTo account sys.pool.contract.lendingDenom.name = paid.val := by
      simp [Event.paidTo, withdrawer, Response.sentCoins, sends]
    have hburned : e.burnedFor account = burned.val := by
      rw [Event.burnedFor, if_pos withdrawer, burned_eq]
    have hcovered : decimalFractional * paid.val ≤
        burned.val * sys.pool.indexAt e.env.blockTime := by
      rw [redeemed.paid_eq, hlast, AccruedTo.indexAt hr]
      exact Nat.mul_div_le _ _
    have hworth : sys'.worth account e.env.blockTime +
        burned.val * sys.pool.indexAt e.env.blockTime ≤
          (sys.token.balance account).val * sys.pool.indexAt e.env.blockTime := by
      rw [← balance, Nat.add_mul]
      exact Nat.add_le_add_right (Nat.mul_le_mul_left _ hindex) _
    rw [hpaid, hburned]
    refine ⟨?_, hcovered⟩
    show _ ≤ (sys.token.balance account).val * sys.pool.indexAt e.env.blockTime + _
    omega
  | @transfer holder recipient received sent exact payload msg body rule same balance =>
    have hpaid : e.paidTo account sys.pool.contract.lendingDenom.name = 0 := by
      rw [Event.paidTo, msg]
      cases body <;> rfl
    have hbalance : (sys'.token.balance account).val ≤ (sys.token.balance account).val := by
      by_cases hrecipient : account = recipient
      · have hholder : account = holder := by
          rw [Event.forwardsTo_eq msg body, decide_eq_false_iff_not] at hothers
          by_contra hne
          exact hothers ⟨hrecipient.symm, fun he => hne he.symm⟩
        rw [if_pos hrecipient, if_pos hholder] at balance
        omega
      · rw [if_neg hrecipient] at balance
        omega
    rw [hpaid, Nat.mul_zero, Nat.add_zero]
    exact ⟨Nat.le_add_right_of_le (hkept hbalance), Nat.zero_le _⟩
  | other lend withdrawer balance =>
    have hpaid : e.paidTo account sys.pool.contract.lendingDenom.name = 0 := by
      rw [Event.paidTo, if_neg withdrawer]
    rw [hpaid, Nat.mul_zero, Nat.add_zero]
    refine ⟨Nat.le_add_right_of_le (hkept ?_), Nat.zero_le _⟩
    rw [balance]

/-- Nothing is withdrawn for the pool itself: it owns no tokens between transactions. -/
theorem SystemStep.withdrawer_ne_pool {e : Event} (h : SystemStep w sys tx sys')
    (hwired : Wired w sys.token) (hsys : InStep w 0 sys) (hevent : sys.poolEvent w tx = some e) :
    e.msg.withdrawer? ≠ some w.pool := by
  have hsender : tx.info.sender ≠ w.pool := by
    simp only [SystemStep, System.transact, bind_eq_ok, ensure_eq_ok, exists_const] at h
    exact h.1.1
  intro hwithdrawer
  cases h.txEffect hwired hsys.bound (fun he => w.distinct he.symm) with
  | @pool e' event env step tx_msg deps info direct balance =>
    obtain rfl : e' = e := Option.some.inj (event.symm.trans hevent)
    cases step.holderEvent with
    | lend msg =>
      rw [msg] at hwithdrawer
      cases hwithdrawer
    | withdraw msg => exact direct _ msg
    | transfer msg => exact direct _ msg
    | @ownerWithdraw token lender amount commitFunds burned paid msg owner messages =>
      rw [msg] at hwithdrawer
      have hlender : trim lender = w.pool := Option.some.inj hwithdrawer
      have hcall : (token, RepoTokenMsg.burnFrom w.pool burned) ∈ e'.response.tokenCalls := by
        rw [Response.tokenCalls_eq messages, withdrawalMessages_tokenCalls, hlender]
        exact List.mem_singleton_self _
      have htoken := step.tokenTraffic.target _ hcall
      rw [hsys.bound] at htoken
      obtain rfl : w.token = token := Option.some.inj htoken
      obtain ⟨-, bal, hbal, hpos⟩ := step.tokenTraffic.burnsFrom _ _ _ hcall
      rw [deps] at hbal
      rw [askToken_scaledBalance hbal, hsys.holding] at hpos
      exact Nat.lt_irrefl _ hpos
    | quiet _ receive withdraw =>
      rw [withdrawer?_eq_none receive withdraw] at hwithdrawer
      cases hwithdrawer
  | @send e' amount body event env step tx_msg msg =>
    obtain rfl : e' = e := Option.some.inj (event.symm.trans hevent)
    rw [msg] at hwithdrawer
    simp only [ExecuteMsg.withdrawer?] at hwithdrawer
    split at hwithdrawer
    · exact hsender (Option.some.inj hwithdrawer)
    · exact hsender (Option.some.inj hwithdrawer)
    · cases hwithdrawer
  | quiet event =>
    rw [event] at hevent
    cases hevent

/-- Within a block the index does not rise. -/
theorem SystemStep.indexAt_le (h : SystemStep w sys tx sys') (hwired : Wired w sys.token)
    (hsys : InStep w 0 sys) (hs : Accruable sys.pool tx.blockTime) :
    Accruable sys'.pool tx.blockTime ∧
      sys'.pool.indexAt tx.blockTime ≤ sys.pool.indexAt tx.blockTime := by
  rcases h.accountEffect hwired hsys.bound (fun he => w.distinct he.symm) with
    ⟨e, -, henv, hstep, -⟩ | ⟨-, hpool, -⟩
  · have htime : e.env.blockTime = tx.blockTime := by rw [henv]; rfl
    rw [← htime] at hs ⊢
    exact hstep.indexAt_le hs
  · rw [hpool]
    exact ⟨hs, Nat.le_refl _⟩

/-- A transaction in the block covers its payments, by worth and by what it burns. -/
theorem SystemStep.worth (h : SystemStep w sys tx sys') (hwired : Wired w sys.token)
    (hsys : InStep w 0 sys) (hs : Accruable sys.pool tx.blockTime)
    (hothers : ∀ e, sys.poolEvent w tx = some e → e.forwardsTo account = false) :
    sys'.worth account tx.blockTime + decimalFractional * paidTo w account ⟨sys, tx, sys'⟩ ≤
        sys.worth account tx.blockTime + decimalFractional * lentBy w account ⟨sys, tx, sys'⟩ ∧
      decimalFractional * paidTo w account ⟨sys, tx, sys'⟩ ≤
        burnedFor w account ⟨sys, tx, sys'⟩ * sys.pool.indexAt tx.blockTime := by
  by_cases haccount : account = w.pool
  · have hworth : sys'.worth account tx.blockTime = 0 := by
      rw [System.worth, haccount, (SystemStep.inStep h hwired hsys).holding, Nat.zero_mul]
    have hpaid : paidTo w account ⟨sys, tx, sys'⟩ = 0 := by
      unfold paidTo ofPool
      dsimp only
      split
      · rename_i e hevent
        have hnone := h.withdrawer_ne_pool hwired hsys hevent
        rw [← haccount] at hnone
        rw [Event.paidTo, if_neg hnone]
      · rfl
    rw [hworth, hpaid]
    exact ⟨Nat.zero_le _, Nat.zero_le _⟩
  · unfold paidTo lentBy burnedFor ofPool
    dsimp only
    rcases h.accountEffect hwired hsys.bound haccount with
      ⟨e, hevent, henv, hstep, heffect⟩ | ⟨hevent, hpool, hbalance⟩
    · have htime : e.env.blockTime = tx.blockTime := by rw [henv]; rfl
      rw [← htime] at hs ⊢
      rw [hevent]
      exact heffect.worth hstep hs (hothers e hevent)
    · rw [hevent]
      dsimp only [System.worth]
      rw [hpool, hbalance]
      exact ⟨Nat.le_refl _, Nat.zero_le _⟩

/-! ## Runs in one block -/

/-- What the accounting in a block relies on. -/
structure InBlock (w : Wiring) (t : Timestamp) (index : Nat) (sys : System) : Prop where
  inStep : InStep w 0 sys
  wired : Wired w sys.token
  accruable : Accruable sys.pool t
  index_le : sys.pool.indexAt t ≤ index

/-- A transaction in the block, in which nobody else passes tokens on to the account. -/
structure BlockTx (w : Wiring) (t : Timestamp) (account : Addr) (x : Transition System Tx) :
    Prop where
  wired : Wired w x.post.token
  time : x.label.blockTime = t
  others : ∀ e, x.pre.poolEvent w x.label = some e → e.forwardsTo account = false

theorem InBlock.step {index : Nat} (hsys : InBlock w T index sys)
    (hx : BlockTx w T account ⟨sys, tx, sys'⟩) (h : SystemStep w sys tx sys') :
    InBlock w T index sys' := by
  have htime : tx.blockTime = T := hx.time
  have haccruable := hsys.accruable
  rw [← htime] at haccruable
  obtain ⟨haccruable', hle⟩ := h.indexAt_le hsys.wired hsys.inStep haccruable
  rw [htime] at haccruable' hle
  exact ⟨SystemStep.inStep h hsys.wired hsys.inStep, hx.wired, haccruable',
    Nat.le_trans hle hsys.index_le⟩

/-- In a block, a lender is paid at most what its tokens are worth at the start and what it
lends, and at most what the burned tokens are worth together.  The token is the pool's own
(`SystemStart`) and stays so: `past_wired` and `BlockTx.wired` leave out a transaction that
names another minter or pool address. -/
theorem lender_never_gains {sys₀ sys₁ : System} {history ts : List (Transition System Tx)}
    {r : ReserveStateV1} (start : SystemStart w sys₀)
    (past : Run (SystemStep w) sys₀ history sys₁)
    (past_wired : ∀ x ∈ history, Wired w x.post.token) (accrued : AccruedTo sys₁.pool T r)
    (run : Run (SystemStep w) sys₁ ts sys) (block : ∀ x ∈ ts, BlockTx w T account x) :
    (ts.map (paidTo w account)).sum ≤
        (sys₁.token.balance account).val * r.liquidityIndex.atomics / decimalFractional +
          (ts.map (lentBy w account)).sum ∧
      (ts.map (paidTo w account)).sum ≤
        (ts.map (burnedFor w account)).sum * r.liquidityIndex.atomics / decimalFractional := by
  obtain ⟨hsys₁, hwired₁⟩ := start.inStep_run past past_wired
  have hstart : InBlock w T r.liquidityIndex.atomics sys₁ :=
    ⟨hsys₁, hwired₁, ⟨r, accrued⟩, Nat.le_of_eq accrued.indexAt⟩
  have hstep : ∀ s a s', InBlock w T r.liquidityIndex.atomics s → BlockTx w T account ⟨s, a, s'⟩ →
      SystemStep w s a s' → InBlock w T r.liquidityIndex.atomics s' :=
    fun _ _ _ hs hx h => hs.step hx h
  have hcovered : ∀ s a s', InBlock w T r.liquidityIndex.atomics s →
      BlockTx w T account ⟨s, a, s'⟩ → SystemStep w s a s' →
        s'.worth account T + decimalFractional * paidTo w account ⟨s, a, s'⟩ ≤
            s.worth account T + decimalFractional * lentBy w account ⟨s, a, s'⟩ ∧
          decimalFractional * paidTo w account ⟨s, a, s'⟩ ≤
            burnedFor w account ⟨s, a, s'⟩ * s.pool.indexAt T := by
    intro s a s' hs hx h
    obtain rfl : a.blockTime = T := hx.time
    exact h.worth hs.wired hs.inStep hs.accruable hx.others
  have hdecimal : 0 < decimalFractional := by decide
  constructor
  · have hsum := run.sum_le (m := fun s => s.worth account T)
      (g := fun x => decimalFractional * lentBy w account x)
      (l := fun x => decimalFractional * paidTo w account x) hstep
      (fun s a s' hs hx h => (hcovered s a s' hs hx h).1) block hstart
    rw [List.sum_map_mul_left, List.sum_map_mul_left] at hsum
    have hworth : sys₁.worth account T =
        (sys₁.token.balance account).val * r.liquidityIndex.atomics := by
      rw [System.worth, accrued.indexAt]
    rw [← Nat.add_mul_div_left _ _ hdecimal, Nat.le_div_iff_mul_le hdecimal, ← hworth]
    calc (ts.map (paidTo w account)).sum * decimalFractional
        = decimalFractional * (ts.map (paidTo w account)).sum := Nat.mul_comm _ _
      _ ≤ sys.worth account T + decimalFractional * (ts.map (paidTo w account)).sum :=
          Nat.le_add_left _ _
      _ ≤ sys₁.worth account T + decimalFractional * (ts.map (lentBy w account)).sum := hsum
  · rw [Nat.le_div_iff_mul_le hdecimal, ← List.sum_map_mul_right, ← List.sum_map_mul_right]
    apply List.sum_le_sum
    intro x hx
    have hpre := run.invariant_pre_of_transitions hstep block hstart x hx
    have hpaid := (hcovered _ _ _ hpre (block x hx) (run.isStep x hx)).2
    calc paidTo w account x * decimalFractional
        = decimalFractional * paidTo w account x := Nat.mul_comm _ _
      _ ≤ burnedFor w account x * x.pre.pool.indexAt T := hpaid
      _ ≤ burnedFor w account x * r.liquidityIndex.atomics :=
          Nat.mul_le_mul_left _ hpre.index_le

namespace Demo

/-- The lender lends to Alice. -/
def loans : List Tx :=
  [Demo.tx "lender" [⟨"usd", 1000⟩] (.pool .lend),
    Demo.tx "alice" [⟨"gold", 100⟩] (.pool .addCollateral),
    Demo.tx "alice" [] (.pool (.borrow 500))]

/-- A week later. -/
def later : Timestamp := (env 604800).blockTime

/-- Within one block the lender withdraws in pieces and lends a little, another lender
comes and goes, and the owner withdraws for the lender. -/
def pieces : List Tx :=
  [Demo.tx "lender" [] (.token (.send "pool" 100 (.ok (.withdraw 33 none)))),
    Demo.tx "carol" [⟨"usd", 50⟩] (.pool .lend),
    Demo.tx "lender" [] (.token (.send "pool" 33 (.ok (.withdrawExact none)))),
    Demo.tx "lender" [⟨"usd", 7⟩] (.pool .lend),
    Demo.tx "carol" [] (.token (.send "pool" 49 (.ok (.withdrawExact none)))),
    Demo.tx "owner" [] (.pool (.withdraw "lender" (some 150) none))].map
      fun t => { t with blockTime := later }

/-- A transaction of the block, on the wired token, that passes no tokens on to the account. -/
def inBlockCheck (account : Addr) (x : Transition System Tx) : Bool :=
  decide (x.post.token.config = ⟨wiring.pool, some wiring.pool⟩) &&
    decide (x.label.blockTime = later) &&
      (x.pre.poolEvent wiring x.label).all fun e => !e.forwardsTo account

theorem inBlock_check {account : Addr} {x : Transition System Tx}
    (h : inBlockCheck account x = true) : BlockTx wiring later account x := by
  simp only [inBlockCheck, Bool.and_eq_true, decide_eq_true_eq, Option.all_eq_true,
    Bool.not_eq_true'] at h
  exact ⟨h.1.1, h.1.2, h.2⟩

/-- Whether the pieces can follow in one block, and what they pay. -/
def piecesCheck (sys : System) : Bool :=
  match replayTxs wiring sys pieces,
    computeEffectiveReserve sys.pool later sys.pool.contract.rateParams with
  | .ok (ts, _), .ok _ => ts.all (inBlockCheck "lender") &&
      decide ((ts.map (paidTo wiring "lender")).sum = 214)
  | _, _ => false

theorem loans_ok : transactCheck wiring (deps 10) (env 0) ⟨"owner", []⟩ msg tokenMsg bank loans
    piecesCheck = true := by
  decide +kernel

/-- The loans, and the pieces after them. -/
theorem exists_pieces : ∃ (sys₀ sys₁ sys : System) (history ts : List (Transition System Tx))
    (r : ReserveStateV1), SystemStart wiring sys₀ ∧ Run (SystemStep wiring) sys₀ history sys₁ ∧
      (∀ x ∈ history, Wired wiring x.post.token) ∧ AccruedTo sys₁.pool later r ∧
      Run (SystemStep wiring) sys₁ ts sys ∧ (∀ x ∈ ts, BlockTx wiring later "lender" x) ∧
      ts.map (fun x => x.label) = pieces ∧ (ts.map (paidTo wiring "lender")).sum = 214 := by
  obtain ⟨sys₀, history, sys₁, start, past, wired, -, hcheck⟩ := exists_systemRun loans_ok
  unfold piecesCheck at hcheck
  split at hcheck
  · rename_i ts sys r hreplay haccrued
    simp only [Bool.and_eq_true, List.all_eq_true, decide_eq_true_eq] at hcheck
    obtain ⟨run, hlabels⟩ := replayTxs_run hreplay
    exact ⟨sys₀, sys₁, sys, history, ts, r, start, past, wired, haccrued, run,
      fun x hx => inBlock_check (hcheck.1 x hx), hlabels, hcheck.2⟩
  · cases hcheck

end Demo

/-- The pieces pay 214 for a balance of 1000 and a loan of 7. -/
theorem lender_never_gains_pieces :
    ∃ (sys₁ : System) (ts : List (Transition System Tx)) (r : ReserveStateV1),
      AccruedTo sys₁.pool Demo.later r ∧ ts.map (fun x => x.label) = Demo.pieces ∧
      (ts.map (paidTo Demo.wiring "lender")).sum = 214 ∧
      (ts.map (paidTo Demo.wiring "lender")).sum ≤
          (sys₁.token.balance "lender").val * r.liquidityIndex.atomics / decimalFractional +
            (ts.map (lentBy Demo.wiring "lender")).sum ∧
        (ts.map (paidTo Demo.wiring "lender")).sum ≤
          (ts.map (burnedFor Demo.wiring "lender")).sum * r.liquidityIndex.atomics /
            decimalFractional := by
  obtain ⟨sys₀, sys₁, sys, history, ts, r, start, past, wired, accrued, run, block, hlabels,
    hpaid⟩ := Demo.exists_pieces
  exact ⟨sys₁, ts, r, accrued, hlabels, hpaid,
    lender_never_gains start past wired accrued run block⟩

end DemocratizedPrime
