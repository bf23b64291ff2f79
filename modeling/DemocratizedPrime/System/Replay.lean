import DemocratizedPrime.System.Transaction
import DemocratizedPrime.Pool.World

/-!
# Replaying transactions

`deployAndTransact` deploys a pool next to its token and executes transactions;
`exists_systemRun` turns a check of the last state that evaluates to `true` into a run.
-/

namespace DemocratizedPrime

open Result Transitions RepoToken

variable {w : Wiring}

/-- Execute the transactions, one after the other. -/
def replayTxs (w : Wiring) (sys : System) (txs : List Tx) :
    ContractResult (List (Transition System Tx) × System) :=
  replay (fun sys tx => (fun sys' => (sys', ())) <$> sys.transact w tx) (fun tx _ => tx) sys txs

theorem replayTxs_run {sys sys' : System} {txs : List Tx} {ts : List (Transition System Tx)}
    (h : replayTxs w sys txs = .ok (ts, sys')) :
    Run (SystemStep w) sys ts sys' ∧ ts.map (fun t => t.label) = txs := by
  have hstep : ∀ s tx s' (u : Unit), (fun sys' => (sys', ())) <$> s.transact w tx = .ok (s', u) →
      SystemStep w s tx s' := by
    intro s tx s' u h
    rw [map_eq_ok] at h
    obtain ⟨sys', h, heq⟩ := h
    cases heq
    exact h
  exact replay_run (fun _ _ => rfl) hstep h

/-- Deploy a pool and a token next to the given balances, and execute the transactions. -/
def deployAndTransact (w : Wiring) (deps : Deps) (env : Env) (info : MessageInfo)
    (pool : InstantiateMsg) (token : RepoToken.InstantiateMsg) (bank : Bank) (txs : List Tx) :
    ContractResult (System × List (Transition System Tx) × System) := do
  let (pool, _) ← instantiate deps env info pool
  let (token, _) ← RepoToken.instantiate deps token
  let exec (sys : System) (tx : Tx) : ContractResult (System × Unit) :=
    (fun sys' => (sys', ())) <$> sys.transact w tx
  let (ts, sys) ← replay exec (fun tx _ => tx) { pool, token, bank } txs
  return ({ pool, token, bank }, ts, sys)

/-- Whether the contracts are bound to each other, all transactions succeed and leave the
token wired, and the last state passes `check`. -/
def transactCheck (w : Wiring) (deps : Deps) (env : Env) (info : MessageInfo)
    (pool : InstantiateMsg) (token : RepoToken.InstantiateMsg) (bank : Bank) (txs : List Tx)
    (check : System → Bool) : Bool :=
  match deployAndTransact w deps env info pool token bank txs with
  | .ok (sys₀, ts, sys) =>
    decide (sys₀.pool.contract.repoTokenCw20Address = some w.token) &&
      decide (sys₀.token.config = ⟨w.pool, some w.pool⟩) &&
      ts.all (fun t => decide (t.post.token.config = ⟨w.pool, some w.pool⟩)) && check sys
  | .error _ => false

theorem instantiate_supply {deps : Deps} {msg : RepoToken.InstantiateMsg} {t : TokenStorage}
    {res : TokenResponse} (h : RepoToken.instantiate deps msg = .ok (t, res)) :
    t.tokenInfo.totalSupply.val = 0 := by
  unfold RepoToken.instantiate at h
  split at h
  · cases h
  · simp only [bind_eq_ok, pure_eq_ok, Prod.mk.injEq] at h
    obtain ⟨owner, -, minter, -, pool, -, rfl, -⟩ := h
    rfl

theorem exists_systemRun {deps : Deps} {env : Env} {info : MessageInfo} {pool : InstantiateMsg}
    {token : RepoToken.InstantiateMsg} {bank : Bank} {txs : List Tx} {check : System → Bool}
    (h : transactCheck w deps env info pool token bank txs check = true) :
    ∃ sys₀ ts sys, SystemStart w sys₀ ∧ Run (SystemStep w) sys₀ ts sys ∧
      (∀ t ∈ ts, Wired w t.post.token) ∧ ts.map (fun t => t.label) = txs ∧ check sys = true := by
  unfold transactCheck at h
  split at h
  · rename_i sys₀ ts sys hdeploy
    simp only [Bool.and_eq_true, decide_eq_true_eq, List.all_eq_true] at h
    obtain ⟨⟨⟨hbound, hstart⟩, hwired⟩, hcheck⟩ := h
    simp only [deployAndTransact, bind_eq_ok, Prod.exists, pure_eq_ok, Prod.mk.injEq] at hdeploy
    obtain ⟨p, _, hpool, t, _, htoken, ts', sys', hreplay, rfl, rfl, rfl⟩ := hdeploy
    obtain ⟨run, htxs⟩ := replayTxs_run hreplay
    exact ⟨_, ts', sys', ⟨⟨_, .instantiated rfl hpool⟩, hbound,
      ⟨deps, token, t, _, [], htoken, .nil⟩, instantiate_supply htoken, hstart⟩, run,
      hwired, htxs, hcheck⟩
  · cases h

namespace Demo

/-- The addresses of the two contracts. -/
def wiring : Wiring := ⟨"pool", "repo", by decide⟩

/-- The token, wired to the pool. -/
def tokenMsg : RepoToken.InstantiateMsg := ⟨"Prime Repo", "REPO", 6, "owner", "pool", some "pool"⟩

/-- A transaction in the block of the deployment. -/
def tx (sender : Addr) (funds : List Coin) (msg : TxMsg) : Tx :=
  ⟨deps 10, fun _ bank => .ok bank, (env 0).blockTime, 1, ⟨sender, funds⟩, msg⟩

/-- A lender arrives, withdraws a part, passes some on to Carol, who withdraws, and the
owner withdraws for the lender.  The first two sends come with more than is used. -/
def exchanges : List Tx :=
  [tx "lender" [⟨"usd", 1000⟩] (.pool .lend),
    tx "lender" [] (.token (.send "pool" 300 (.ok (.withdraw 100 none)))),
    tx "lender" [] (.token (.send "pool" 200 (.ok (.transfer "carol" 50)))),
    tx "carol" [] (.token (.send "pool" 20 (.ok (.withdrawExact none)))),
    tx "owner" [] (.pool (.withdraw "lender" (some 150) none))]

/-- The lender holds 700 tokens, and Carol thirty. -/
def exchangesCheck (sys : System) : Bool :=
  decide ((sys.token.balance "lender").val = 700) && decide ((sys.token.balance "carol").val = 30)

theorem exchanges_check {sys : System} (h : exchangesCheck sys = true) :
    (sys.token.balance "lender").val = 700 ∧ (sys.token.balance "carol").val = 30 := by
  simpa [exchangesCheck] using h

theorem exchanges_ok : transactCheck wiring (deps 10) (env 0) ⟨"owner", []⟩ msg tokenMsg bank
    exchanges exchangesCheck = true := by
  decide +kernel

end Demo

end DemocratizedPrime
