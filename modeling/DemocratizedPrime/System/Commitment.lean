import DemocratizedPrime.Pool.Safety.CommitRules
import DemocratizedPrime.System.Holders
import DemocratizedPrime.System.LockStep

/-!
# Commitment on exit

The commit rules of the pool, and what they mean for a holder of repo tokens: while the
rule is on, units leave the account only in a withdrawal whose payment is committed, or
in a withdrawal by the owner.  A `Transfer` through the pool is refused, and the token
itself lets nobody but the pool transfer.
-/

namespace DemocratizedPrime

open Result Transitions RepoToken

variable {w : Wiring} {sys sys' : System}

/-- Units of the account were withdrawn: by itself, and the payment was committed, or by
the owner. -/
def LeftCommitted (w : Wiring) (account : Addr) (x : Transition System Tx) : Prop :=
  ∃ e, x.pre.poolEvent w x.label = some e ∧ PoolStep x.pre.pool e x.post.pool ∧
    ((∃ received payload exact commitFunds, e.msg = .receive ⟨account, received, .ok payload⟩ ∧
        payload.Withdraws exact commitFunds ∧
        ∃ paid, PaysCommitted x.pre.pool e account
          [⟨x.pre.pool.contract.lendingDenom.name, paid⟩]) ∨
      (∃ lender amount commitFunds, e.msg = .withdraw lender amount commitFunds ∧
        trim lender = account ∧ x.pre.pool.ownership.owner = some e.info.sender))

/-- The balance of an account under the rule goes down in such a withdrawal only. -/
theorem SystemStep.leftCommitted {tx : Tx} {account : Addr} (h : SystemStep w sys tx sys')
    (hwired : Wired w sys.token) (hsys : InStep w 0 sys)
    (hrule : sys.pool.getLenderRequireCommitOnExit account = true)
    (hdown : (sys'.token.balance account).val < (sys.token.balance account).val) :
    LeftCommitted w account ⟨sys, tx, sys'⟩ := by
  have haccount : account ≠ w.pool := by
    rintro rfl
    rw [hsys.holding] at hdown
    exact Nat.not_lt_zero _ hdown
  rcases h.accountEffect hwired hsys.bound haccount with
    ⟨e, hevent, -, hstep, heffect⟩ | ⟨-, -, hsame⟩
  · cases heffect with
    | lend _ _ _ _ _ _ balance => omega
    | @withdraw burned paid withdrawer =>
      refine ⟨e, hevent, hstep, ?_⟩
      cases hstep.holderEvent with
      | lend msg =>
        rw [msg] at withdrawer
        cases withdrawer
      | @withdraw token holder received _ _ exact commitFunds payload msg body =>
        rw [msg, withdrawer?_receive body] at withdrawer
        obtain rfl := Option.some.inj withdrawer
        obtain ⟨-, hpaid⟩ := hstep.lender_committed msg hrule
        exact Or.inl ⟨received, payload, exact, commitFunds, msg, body, hpaid⟩
      | transfer msg body =>
        rw [msg] at withdrawer
        cases body <;> cases withdrawer
      | @ownerWithdraw token lender amount commitFunds _ _ msg owner =>
        rw [msg] at withdrawer
        exact Or.inr ⟨lender, amount, commitFunds, msg, Option.some.inj withdrawer, owner⟩
      | quiet _ receive withdraw =>
        rw [withdrawer?_eq_none receive withdraw] at withdrawer
        cases withdrawer
    | @transfer holder recipient received sent exact payload _ _ rule _ balance =>
      by_cases hholder : account = holder
      · rw [← hholder, hrule] at rule
        cases rule
      · rw [if_neg hholder] at balance
        omega
    | other _ _ balance =>
      rw [balance] at hdown
      exact absurd hdown (Nat.lt_irrefl _)
  · rw [hsame] at hdown
    exact absurd hdown (Nat.lt_irrefl _)

/-! ## Runs -/

/-- In every reachable state of the pool there is a market while a rule is on, and every
step pays an account under a rule in commitments.  In every run of the pool and its token,
the balance of a holder under the rule goes down only where units leave committed or by
the owner's hand. -/
theorem commit_enforcement {t : Timestamp} {s₀ s : PoolStorage}
    {ts : List (Transition PoolStorage Event)} {sys₀ : System} {txs : List (Transition System Tx)}
    (deployed : DeployedAt t s₀) (run : Run PoolStep s₀ ts s) (start : SystemStart w sys₀)
    (exits : Run (SystemStep w) sys₀ txs sys) (wired : ∀ x ∈ txs, Wired w x.post.token) :
    (MarketSet s ∧ ∀ x ∈ ts, MarketSet x.pre ∧ CommitGuarded x) ∧
      ∀ x ∈ txs, ∀ account, x.pre.pool.getLenderRequireCommitOnExit account = true →
        (x.post.token.balance account).val < (x.pre.token.balance account).val →
          LeftCommitted w account x := by
  have hkeeps : ∀ s e s', MarketSet s → PoolStep s e s' → MarketSet s' :=
    fun _ _ _ hs hstep => hs.step hstep
  have hmarket := run.invariant_pre hkeeps deployed.noRecords.marketSet
  refine ⟨⟨run.invariant hkeeps deployed.noRecords.marketSet, fun x hx => ?_⟩,
    fun x hx account hrule hdown => ?_⟩
  · exact ⟨hmarket x hx, (run.isStep x hx).commitGuarded (hmarket x hx)⟩
  · obtain ⟨hsys, hwired⟩ := start.inStep_pre exits wired x hx
    exact (exits.isStep x hx).leftCommitted hwired hsys hrule hdown

namespace Demo

/-- The same pool with a market to commit to. -/
def marketMsg : InstantiateMsg := { msg with commitMarketId := some 7 }

/-- Alice has to commit.  She borrows, repays with too much, and takes her gold back. -/
def commitments : List Call :=
  [call "owner" [] (.setBorrowerRequireCommit "alice" (some true))] ++ opening ++
    [call "alice" [⟨"usd", 600⟩] .repay,
      call "alice" [] (.removeCollateral ((∅ : Amounts).insert "gold" 100))]

/-- Alice is under a commit rule, and has no debt left. -/
def commitmentsCheck (s : PoolStorage) : Bool :=
  s.getBorrowerRequireCommit "alice" && decide ((s.getScaledBorrow "alice").val = 0)

theorem commitments_ok :
    replayCheck (deps 10) (env 0) ⟨"owner", []⟩ marketMsg commitments commitmentsCheck = true := by
  decide +kernel

/-- A lender who has to commit withdraws a part, and the owner withdraws the rest. -/
def exits : List Tx :=
  [tx "lender" [⟨"usd", 1000⟩] (.pool .lend),
    tx "owner" [] (.pool (.setLenderRequireCommitOnExit "lender" (some true))),
    tx "lender" [] (.token (.send "pool" 300 (.ok (.withdraw 100 (some true))))),
    tx "owner" [] (.pool (.withdraw "lender" none none))]

/-- The lender has no tokens left. -/
def exitsCheck (sys : System) : Bool := decide ((sys.token.balance "lender").val = 0)

theorem exits_ok : transactCheck wiring (deps 10) (env 0) ⟨"owner", []⟩ marketMsg tokenMsg bank
    exits exitsCheck = true := by
  decide +kernel

end Demo

theorem commit_enforcement_exits :
    ∃ (ts : List (Transition PoolStorage Event)) (s : PoolStorage)
      (txs : List (Transition System Tx)) (sys : System),
      ts.map (fun x => x.label.toCall) = Demo.commitments ∧ Demo.commitmentsCheck s = true ∧
      txs.map (fun x => x.label) = Demo.exits ∧ Demo.exitsCheck sys = true ∧
      (MarketSet s ∧ ∀ x ∈ ts, MarketSet x.pre ∧ CommitGuarded x) ∧
        ∀ x ∈ txs, ∀ account, x.pre.pool.getLenderRequireCommitOnExit account = true →
          (x.post.token.balance account).val < (x.pre.token.balance account).val →
            LeftCommitted Demo.wiring account x := by
  obtain ⟨s₀, ts, s, deployed, run, hcalls, hcheck⟩ := exists_run Demo.commitments_ok
  obtain ⟨sys₀, txs, sys, start, exits, wired, htxs, hexits⟩ := exists_systemRun Demo.exits_ok
  exact ⟨ts, s, txs, sys, hcalls, hcheck, htxs, hexits,
    commit_enforcement deployed run start exits wired⟩

end DemocratizedPrime
