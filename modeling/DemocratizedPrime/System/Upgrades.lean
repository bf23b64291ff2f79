import DemocratizedPrime.Pool.Lifetime
import DemocratizedPrime.RepoToken.Lifetime
import DemocratizedPrime.System.Creation

/-!
# A system and its releases

The pool and its token are upgraded one at a time, each on its own storage, between two
transactions.  So there are times at which they run code of different releases.

An upgrade of the token does not show, and an upgrade of the pool changes at most the two
roles.  So the two contracts stay in lock-step, in whatever order transactions and releases
come (`lock_step_across_releases`).
-/

namespace DemocratizedPrime

open Result Transitions RepoToken

/-- The two contracts as they are stored, and the balances of the chain. -/
structure StoredSystem where
  pool : StoredPool
  token : StoredToken
  bank : Bank

/-- The system that the running code reads. -/
def StoredSystem.load (store : StoredSystem) : ContractResult System := do
  let pool ← store.pool.load
  let token ← StoredToken.load store.token
  return { pool, token, bank := store.bank }

theorem StoredSystem.load_eq_ok {store : StoredSystem} {sys : System} : store.load = .ok sys ↔
    store.pool.load = .ok sys.pool ∧ StoredToken.load store.token = .ok sys.token ∧
      store.bank = sys.bank := by
  simp only [StoredSystem.load, bind_eq_ok, pure_eq_ok]
  constructor
  · rintro ⟨pool, hpool, token, htoken, rfl⟩
    exact ⟨hpool, htoken, rfl⟩
  · rintro ⟨hpool, htoken, hbank⟩
    exact ⟨_, hpool, _, htoken, by rw [hbank]⟩

/-- How this code stores a system. -/
def System.save (sys : System) (pool token : ContractVersion) : StoredSystem where
  pool := sys.pool.save pool
  token := sys.token.save token
  bank := sys.bank

theorem System.load_save {sys : System}
    (h : sys.pool.contract.rateParams.secondsPerYear = secondsPerYear)
    (pool token : ContractVersion) : (sys.save pool token).load = .ok sys :=
  StoredSystem.load_eq_ok.mpr ⟨PoolStorage.load_save h pool, sys.token.load_save token, rfl⟩

/-- A transaction, or a migration of one of the two contracts. -/
inductive SystemEvent
  | transaction (tx : Tx)
  | upgradePool (deps : Deps) (contractVersion : String) (msg : MigrateMsg)
  | upgradeToken (deps : Deps) (contractVersion : String)

section

variable {V : Type} [LinearOrder V] [SemVer V] {w : Wiring} {store₀ store store' : StoredSystem}
  {sys sys₀ : System} {e : SystemEvent} {ts : List (Transition StoredSystem SystemEvent)}

/-- Execute a transaction on what is stored, or install a release of one of the contracts. -/
inductive SystemLifeStep (V : Type) [LinearOrder V] [SemVer V] (w : Wiring) :
    StoredSystem → SystemEvent → StoredSystem → Prop
  | transaction {store store' : StoredSystem} {sys sys' : System} {tx : Tx}
      (loaded : store.load = .ok sys) (h : SystemStep w sys tx sys')
      (saved : store'.load = .ok sys') (pool : store'.pool.version = store.pool.version)
      (token : store'.token.version = store.token.version) :
      SystemLifeStep V w store (.transaction tx) store'
  | upgradePool {store : StoredSystem} {pool : StoredPool} {deps : Deps}
      {contractVersion : String} {msg : MigrateMsg}
      (h : (poolReleases V).migrates deps contractVersion msg store.pool pool) :
      SystemLifeStep V w store (.upgradePool deps contractVersion msg) { store with pool }
  | upgradeToken {store : StoredSystem} {token : StoredToken} {deps : Deps}
      {contractVersion : String}
      (h : (tokenReleases V).migrates deps contractVersion () store.token token) :
      SystemLifeStep V w store (.upgradeToken deps contractVersion) { store with token }

/-- A transaction that names no other minter or pool; a migration never does. -/
def SystemEvent.KeepsWiring (w : Wiring) (e : SystemEvent) : Prop :=
  ∀ tx, e = .transaction tx → tx.KeepsWiring w

/-- Changing the roles does not disturb the lock-step. -/
theorem InStep.withRoles {held : Nat} {pool : PoolStorage} (h : InStep w held sys)
    (hpool : Reachable pool) (hreserve : pool.reserve = sys.pool.reserve)
    (hbound : pool.contract.repoTokenCw20Address = sys.pool.contract.repoTokenCw20Address) :
    InStep w held { sys with pool } where
  pool := hpool
  ledger := h.ledger
  supply := h.supply.trans (by rw [hreserve])
  holding := h.holding
  bound := hbound.trans h.bound

/-- What is stored loads as a system that is wired and in lock-step. -/
def LoadsInStep (w : Wiring) (store : StoredSystem) : Prop :=
  ∃ sys, store.load = .ok sys ∧ InStep w 0 sys ∧ Wired w sys.token

theorem SystemLifeStep.loadsInStep (h : SystemLifeStep V w store e store')
    (hkeeps : e.KeepsWiring w) (hstore : LoadsInStep w store) : LoadsInStep w store' := by
  obtain ⟨sys, hload, hsys, hwired⟩ := hstore
  cases h with
  | transaction loaded h saved =>
    obtain rfl := Except.ok.inj (hload.symm.trans loaded)
    exact ⟨_, saved, h.inStep hwired hsys, h.wired (hkeeps _ rfl) hwired⟩
  | upgradePool h =>
    obtain ⟨hpool, htoken, hbank⟩ := StoredSystem.load_eq_ok.mp hload
    obtain ⟨attributes, h⟩ := h
    obtain ⟨custodian, liquidator, hcustodian, hliquidator, hload'⟩ :=
      hsys.pool.upToDate.migrate hpool h
    exact ⟨{ sys with pool := sys.pool.withRoles custodian liquidator },
      StoredSystem.load_eq_ok.mpr ⟨hload', htoken, hbank⟩,
      hsys.withRoles (hsys.pool.withRoles hcustodian hliquidator) rfl rfl, hwired⟩
  | upgradeToken h =>
    obtain ⟨hpool, htoken, hbank⟩ := StoredSystem.load_eq_ok.mp hload
    have htoken' := plainReleases_silent _ _ _ _ _ _ htoken h
    exact ⟨sys, StoredSystem.load_eq_ok.mpr ⟨hpool, htoken', hbank⟩, hsys, hwired⟩

/-- In whatever order transactions and releases of the two contracts come, a system that
stays wired stays in lock-step: its pool is one that messages lead to, the supply of its
token is the pool's scaled total and the sum of the balances, of which the pool has none,
and no transaction ends with the underflow of the scaled total. -/
theorem lock_step_across_releases (start : SystemStart w sys₀) (hload : store₀.load = .ok sys₀)
    (run : Run (SystemLifeStep V w) store₀ ts store)
    (hkeeps : ∀ t ∈ ts, t.label.KeepsWiring w) :
    ∃ sys, store.load = .ok sys ∧ Reachable sys.pool ∧
      sys.pool.contract.repoTokenCw20Address = some w.token ∧
      sys.token.config = ⟨w.pool, some w.pool⟩ ∧
      sys.token.tokenInfo.totalSupply = sys.pool.reserve.totalScaledLiquidity ∧
      sys.token.tokenInfo.totalSupply.val =
        (sys.token.balances.toList.map fun entry => entry.2.val).sum ∧
      sys.token.balance w.pool = 0 ∧
      ∀ tx, sys.transact w tx ≠
        .error (illegalState "underflow: total_scaled_liquidity - scaled_to_burn") := by
  obtain ⟨sys, hstore, hsys, hwired⟩ := run.invariant_of_transitions
    (P := fun t => t.label.KeepsWiring w) (fun _ _ _ hI hP h => h.loadsInStep hP hI) hkeeps
    ⟨sys₀, hload, start.inStep, start.wired⟩
  refine ⟨sys, hstore, hsys.pool, hsys.bound, hwired, Uint.ext hsys.supply, hsys.ledger.supply,
    Uint.ext (hsys.holding.trans Uint.val_zero.symm), fun tx herror => ?_⟩
  exact noUnderflow_transact hsys tx _ herror _ (by simp [ledgerUnderflows]) rfl

end

namespace Demo

/-- An older release of the token. -/
def tokenRelease : ContractVersion := ⟨RepoToken.contractName, "1.1.0"⟩

/-- A lender arrives after both contracts have been upgraded. -/
def lendAfter : Tx := tx "lender" [⟨"usd", 1000⟩] (.pool .lend)

/-- Both contracts are migrated, and a lender gets tokens afterwards. -/
def systemUpgradeCheck (sys : System) : Bool :=
  match migrate Version (deps 10) "1.2.0" (sys.pool.save firstRelease) ⟨some "bob", none⟩,
      RepoToken.migrate Version (deps 10) "1.10.0" (sys.token.save tokenRelease) with
  | .ok (pool, _), .ok (token, _) =>
    match StoredSystem.load { pool, token, bank := sys.bank } with
    | .ok sys =>
      match sys.transact wiring lendAfter with
      | .ok sys => decide ((sys.token.balance "lender").val = 1000) &&
          decide (sys.pool.contract.rateParams.secondsPerYear = secondsPerYear)
      | .error _ => false
    | .error _ => false
  | _, _ => false

/-- The two migrations, and the lender after them. -/
def systemUpgrades : List SystemEvent :=
  [.upgradePool (deps 10) "1.2.0" ⟨some "bob", none⟩, .upgradeToken (deps 10) "1.10.0",
    .transaction lendAfter]

theorem systemUpgrades_keepsWiring : ∀ e ∈ systemUpgrades, e.KeepsWiring wiring := by
  intro e he tx htx minter poolAddress hmsg
  simp only [systemUpgrades, List.mem_cons, List.not_mem_nil, or_false] at he
  rw [htx] at he
  rcases he with hpool | htoken | hlend
  · cases hpool
  · cases htoken
  · rw [SystemEvent.transaction.inj hlend] at hmsg
    cases hmsg

end Demo

/-- The pool is upgraded, then the token, and then a lender arrives. -/
theorem lock_step_across_releases_lend :
    ∃ (store₀ store : StoredSystem) (ts : List (Transition StoredSystem SystemEvent))
      (sys : System), Run (SystemLifeStep Demo.Version Demo.wiring) store₀ ts store ∧
      ts.map (·.label) = Demo.systemUpgrades ∧ store.load = .ok sys ∧
      (sys.token.balance "lender").val = 1000 ∧
      sys.token.tokenInfo.totalSupply = sys.pool.reserve.totalScaledLiquidity := by
  have hdeploy : transactCheck Demo.wiring (Demo.deps 10) (Demo.env 0) ⟨"owner", []⟩ Demo.msg
      Demo.tokenMsg Demo.bank [] Demo.systemUpgradeCheck = true := by
    decide +kernel
  obtain ⟨sys₀, us, sys, hstart, hrun, -, htxs, hcheck⟩ := exists_systemRun hdeploy
  obtain rfl := List.map_eq_nil_iff.mp htxs
  obtain rfl : sys₀ = sys := by simpa using hrun.getLast?_posts
  unfold Demo.systemUpgradeCheck at hcheck
  split at hcheck
  · rename_i pool poolAttributes token tokenAttributes hpool htoken
    split at hcheck
    · rename_i sys₁ hload₁
      split at hcheck
      · rename_i sys₂ hlend
        rw [Bool.and_eq_true, decide_eq_true_eq, decide_eq_true_eq] at hcheck
        obtain ⟨hlender, hyear⟩ := hcheck
        obtain ⟨t, hdeployed⟩ := hstart.deployed
        have hload₀ := System.load_save hdeployed.upToDate.year Demo.firstRelease
          Demo.tokenRelease
        have hload₂ := System.load_save hyear pool.version token.version
        have hupgraded : SystemLifeStep Demo.Version Demo.wiring
            { sys₀.save Demo.firstRelease Demo.tokenRelease with pool }
            (.upgradeToken (Demo.deps 10) "1.10.0") ⟨pool, token, sys₀.bank⟩ :=
          .upgradeToken ⟨tokenAttributes, htoken⟩
        have hlife := Run.cons (.upgradePool ⟨poolAttributes, hpool⟩)
          (Run.cons hupgraded (Run.single (.transaction hload₁ hlend hload₂ rfl rfl)))
        obtain ⟨sys, hstore, -, -, -, hsupply, -⟩ := lock_step_across_releases hstart hload₀ hlife
          fun t ht => Demo.systemUpgrades_keepsWiring _ (List.mem_map_of_mem (f := (·.label)) ht)
        obtain rfl := Except.ok.inj (hload₂.symm.trans hstore)
        exact ⟨_, _, _, sys₂, hlife, rfl, hstore, hlender, hsupply⟩
      · cases hcheck
    · cases hcheck
  · cases hcheck

end DemocratizedPrime
