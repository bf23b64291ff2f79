import DemocratizedPrime.System.InStep
import DemocratizedPrime.Pool.Invariants.NoUnderflow
import DemocratizedPrime.System.Replay

/-!
# Pool and token in lock-step

In every state that transactions lead to, the token's supply is the sum of its balances
and the pool's scaled total, and no repo tokens are left in the pool.  So whatever a
withdrawal burns is part of the scaled total, and the guard of that subtraction never
fails: `noUnderflow_transact` follows a transaction through both contracts.
-/

namespace DemocratizedPrime

open Result Transitions ShareLedger RepoToken

variable {w : Wiring} {sys : System}

/-! ## No underflow -/

@[simp] theorem notUnderflow_poolNotConfigured : NotUnderflow .poolNotConfigured := by
  simp [NotUnderflow, illegalState]

/-- The token has no totals of the pool to underflow. -/
theorem noUnderflow_tokenExecute (deps : Deps) (t : TokenStorage) (env : Env) (info : MessageInfo)
    (msg : RepoToken.ExecuteMsg) : NoUnderflow (RepoToken.execute deps t env info msg) := by
  have hdeduct : ∀ t account amount m, NoUnderflow (TokenStorage.deduct t account amount m) := by
    simp [TokenStorage.deduct]
  have hadd : ∀ t account amount, NoUnderflow (TokenStorage.add t account amount) := by
    simp [TokenStorage.add]
  have hburn : ∀ t owner amount m, NoUnderflow (applyBurn t owner amount m) := by
    simp [applyBurn, hdeduct]
  have hoptional : ∀ address, NoUnderflow (validateOptional deps address) := by
    intro address
    cases address <;> simp [validateOptional]
  cases msg with
  | updateOwnership action => simp [RepoToken.execute, RepoToken.updateOwnership]
  | mint recipient amount => simp [RepoToken.execute, executeMint, onlyMinter, hadd]
  | burn amount => simp [RepoToken.execute, executeBurn, onlyMinter, hburn]
  | burnFrom owner amount => simp [RepoToken.execute, executeBurnFrom, onlyMinter, hburn]
  | transfer recipient amount =>
    simp [RepoToken.execute, executeTransfer, ensureTransferAllowed, hdeduct, hadd]
  | send contract amount msg =>
    simp [RepoToken.execute, executeSend, ensureSendAllowed, hdeduct, hadd]
  | updateConfig minter poolAddress => simp [RepoToken.execute, executeUpdateConfig, hoptional]

@[simp] theorem noUnderflow_payCoins (payer payee : Addr) (bank : Bank) (coins : List Coin) :
    NoUnderflow (payCoins payer payee bank coins) := by
  refine AllErrors.foldlM (fun bank coin => ?_) coins bank
  simp [payCoin]

theorem noUnderflow_runMessage (tx : Tx) (sys : System) (m : CosmosMsg) :
    NoUnderflow (sys.runMessage w tx m) := by
  cases m <;> simp [System.runMessage, noUnderflow_tokenExecute]

/-- What the pool may burn is part of the supply. -/
theorem noUnderflow_callPool {tx : Tx} {info : MessageInfo} {msg : ExecuteMsg} {held : Nat}
    (hsys : InStep w held sys) (hreceived : info.sender = w.token → msg.received = held) :
    NoUnderflow (sys.callPool w tx info msg) := by
  have hcovered : TokenCovered sys.pool (tx.deps.askToken w.token sys.token) info msg := by
    refine ⟨fun token account bal htoken hbal => ?_, fun htoken => ?_⟩
    · rw [hsys.bound] at htoken
      cases htoken
      rw [askToken_scaledBalance hbal, ← hsys.supply]
      exact hsys.ledger.balance_le_supply account
    · rw [hsys.bound] at htoken
      rw [hreceived (Option.some.inj htoken).symm, ← hsys.holding, ← hsys.supply]
      exact hsys.ledger.balance_le_supply w.pool
  have hexecute := noUnderflow_execute (noUnderflow_dispatch
    (tx.deps.askToken w.token sys.token) (tx.env w.pool) info hsys.pool.debtLedger
    hsys.pool.collateralLedger hcovered)
  simp only [System.callPool, allErrors_bind, hexecute, true_and]
  intro _ _
  exact AllErrors.foldlM (noUnderflow_runMessage tx) _ _

theorem noUnderflow_callToken {tx : Tx} {info : MessageInfo} {msg : RepoToken.ExecuteMsg}
    (hsys : InStep w 0 sys) (hsender : info.sender ≠ w.pool) :
    NoUnderflow (sys.callToken w tx info msg) := by
  simp only [System.callToken, allErrors_bind, noUnderflow_tokenExecute, true_and]
  rintro ⟨token, response⟩ hexecute
  dsimp only
  split
  · simp
  · rename_i contract cw20Msg hcall
    obtain ⟨-, change⟩ := (execute_effect hexecute).call hcall
    simp only [allErrors_bind, allErrors_ensure, notUnderflow_std, implies_true, true_and,
      ensure_eq_ok]
    rintro - rfl
    exact noUnderflow_callPool (hsys.afterSend hsender change) fun _ => rfl

/-- No transaction ends with the underflow of a total. -/
theorem noUnderflow_transact (hsys : InStep w 0 sys) (tx : Tx) :
    NoUnderflow (sys.transact w tx) := by
  have hfunded (bank : Bank) : InStep w 0 { sys with bank } :=
    ⟨hsys.pool, hsys.ledger, hsys.supply, hsys.holding, hsys.bound⟩
  simp only [System.transact, allErrors_bind, allErrors_ensure, notUnderflow_std, implies_true,
    true_and, ensure_eq_ok]
  rintro - ⟨hpool, htoken⟩
  split
  · simp only [allErrors_bind, noUnderflow_payCoins, true_and]
    intro bank _
    exact noUnderflow_callPool (hfunded bank) fun he => absurd he htoken
  · simp only [allErrors_bind, noUnderflow_payCoins, true_and]
    intro bank _
    exact noUnderflow_callToken (hfunded bank) hpool

/-! ## Runs -/

/-- Lock-step, in a system that is wired. -/
theorem SystemStep.inStep_wired (s : System) (tx : Tx) (s' : System)
    (hs : InStep w 0 s ∧ Wired w s.token) (hwired : Wired w s'.token)
    (h : SystemStep w s tx s') : InStep w 0 s' ∧ Wired w s'.token :=
  ⟨SystemStep.inStep h hs.2 hs.1, hwired⟩

/-- The end of a run is in lock-step. -/
theorem SystemStart.inStep_run {sys₀ : System} {ts : List (Transition System Tx)}
    (start : SystemStart w sys₀) (run : Run (SystemStep w) sys₀ ts sys)
    (wired : ∀ t ∈ ts, Wired w t.post.token) : InStep w 0 sys ∧ Wired w sys.token :=
  run.invariant_of_transitions (I := fun s => InStep w 0 s ∧ Wired w s.token)
    (P := fun x => Wired w x.post.token) SystemStep.inStep_wired wired
    ⟨start.inStep, start.wired⟩

/-- And so is every state on the way. -/
theorem SystemStart.inStep_pre {sys₀ : System} {ts : List (Transition System Tx)}
    (start : SystemStart w sys₀) (run : Run (SystemStep w) sys₀ ts sys)
    (wired : ∀ t ∈ ts, Wired w t.post.token) :
    ∀ x ∈ ts, InStep w 0 x.pre ∧ Wired w x.pre.token :=
  run.invariant_pre_of_transitions (I := fun s => InStep w 0 s ∧ Wired w s.token)
    (P := fun x => Wired w x.post.token) SystemStep.inStep_wired wired
    ⟨start.inStep, start.wired⟩

/-- After every run of transactions in which the token stays wired to the pool, the
token's supply is the sum of its balances and the pool's scaled total, the pool owns no
repo tokens, no balance is stored as zero, and no transaction can end with the underflow
of the scaled total. -/
theorem pool_and_token_in_lock_step {sys₀ : System} {ts : List (Transition System Tx)}
    (start : SystemStart w sys₀) (run : Run (SystemStep w) sys₀ ts sys)
    (wired : ∀ t ∈ ts, Wired w t.post.token) :
    sys.token.tokenInfo.totalSupply.val =
        (sys.token.balances.toList.map fun entry => entry.2.val).sum ∧
      sys.token.tokenInfo.totalSupply = sys.pool.reserve.totalScaledLiquidity ∧
      sys.token.balance w.pool = 0 ∧
      (∀ (account : Addr) (balance : Uint128), sys.token.balances[account]? = some balance →
        balance ≠ 0) ∧
      ∀ tx, sys.transact w tx ≠
        .error (illegalState "underflow: total_scaled_liquidity - scaled_to_burn") := by
  obtain ⟨hsys, -⟩ := start.inStep_run run wired
  refine ⟨hsys.ledger.supply, Uint.ext hsys.supply, Uint.ext ?_, ?_, ?_⟩
  · rw [hsys.holding, Uint.val_zero]
  · rintro account _ hbalance rfl
    have hzero := hsys.ledger.noZero account 0 hbalance
    simp [Uint.isZero] at hzero
  · intro tx herror
    exact noUnderflow_transact hsys tx _ herror _ (by simp [ledgerUnderflows]) rfl

/-- Five transactions, three of them sends, after which two holders are left. -/
theorem pool_and_token_in_lock_step_exchanges :
    ∃ sys₀ ts sys, SystemStart Demo.wiring sys₀ ∧ Run (SystemStep Demo.wiring) sys₀ ts sys ∧
      ts.map (fun t => t.label) = Demo.exchanges ∧
      (sys.token.balance "lender").val = 700 ∧ (sys.token.balance "carol").val = 30 ∧
      sys.token.tokenInfo.totalSupply = sys.pool.reserve.totalScaledLiquidity ∧
      sys.token.balance "pool" = 0 := by
  obtain ⟨sys₀, ts, sys, start, run, wired, htxs, hcheck⟩ := exists_systemRun Demo.exchanges_ok
  obtain ⟨-, hsupply, hpool, -, -⟩ := pool_and_token_in_lock_step start run wired
  obtain ⟨hlender, hcarol⟩ := Demo.exchanges_check hcheck
  exact ⟨sys₀, ts, sys, start, run, htxs, hlender, hcarol, hsupply, hpool⟩

end DemocratizedPrime
