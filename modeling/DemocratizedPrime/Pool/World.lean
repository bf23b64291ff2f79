import DemocratizedPrime.Pool.Replay
import DemocratizedPrime.CosmWasm.Bank

/-!
# The pool and the bank

`World` puts the pool's storage next to the bank's balances, and `deliver` is one
transaction: the attached coins go to the pool, the pool executes the message, and its
sends leave it.  If any of the three fails, none of them happens.

The pool sends no message to itself, so the sender of a message is another account.
What the queries of a call answer is up to the call, as before.
-/

namespace DemocratizedPrime

open Result Transitions

/-- The pool and the bank that holds its coins. -/
structure World where
  pool : PoolStorage
  bank : Bank

/-- One transaction of the pool at the address: the bank takes the coins in, and pays the sends of
the response.  A commitment that the response asks for is a message to another module of the host,
and what becomes of it is not modelled here. -/
def deliver (address : Addr) (w : World) (c : Call) : ContractResult (World × Response) := do
  ensure (c.info.sender ≠ address ∧ c.env.contractAddress = address)
    (.std "not a message of another account to the pool")
  let bank ← payCoins c.info.sender address w.bank c.info.funds
  let (pool, response) ← execute c.deps w.pool c.env c.info c.msg
  let bank ← paySends address bank response.bankSends
  return ({ pool, bank }, response)

/-- A transaction that succeeded. -/
def WorldStep (address : Addr) (w : World) (e : Event) (w' : World) : Prop :=
  deliver address w e.toCall = .ok (w', e.response)

/-- The pool took a step, and its balances moved by the coins that came in and by at
most those it sent. -/
theorem WorldStep.spec {address : Addr} {w w' : World} {e : Event}
    (h : WorldStep address w e w') :
    PoolStep w.pool e w'.pool ∧ ∀ d, ∃ out ≤ coinsOf d e.response.sentCoins,
      w'.bank address d + out = w.bank address d + coinsOf d e.info.funds := by
  simp only [WorldStep, deliver, bind_eq_ok, ensure_eq_ok, exists_const, Prod.exists, pure_eq_ok,
    Prod.mk.injEq] at h
  obtain ⟨⟨hsender, -⟩, funded, hfunded, pool, response, hexecute, bank, hbank, rfl, hres⟩ := h
  rw [hres] at hexecute hbank
  refine ⟨hexecute, fun d => ?_⟩
  obtain ⟨out, hle, hout⟩ := paySends_spec hbank d
  have hin := payCoins_spec hfunded address d
  rw [if_neg fun he => hsender he.symm, if_pos rfl] at hin
  exact ⟨out, hle, by dsimp only; omega⟩

/-- A sender who is the only one to be paid has paid the attached coins and gets all the sends. -/
theorem WorldStep.sender_bank {address : Addr} {w w' : World} {e : Event}
    (h : WorldStep address w e w') (hto : ∀ send ∈ e.response.bankSends, send.1 = e.info.sender)
    (d : String) : w'.bank e.info.sender d + coinsOf d e.info.funds =
      w.bank e.info.sender d + coinsOf d e.response.sentCoins := by
  simp only [WorldStep, deliver, bind_eq_ok, ensure_eq_ok, exists_const, Prod.exists, pure_eq_ok,
    Prod.mk.injEq] at h
  obtain ⟨⟨hsender, -⟩, funded, hfunded, pool, response, hexecute, bank, hbank, rfl, rfl⟩ := h
  have hin := payCoins_spec hfunded e.info.sender d
  rw [if_pos rfl, if_neg hsender] at hin
  have hout := paySends_payee hsender hto hbank d
  show bank e.info.sender d + _ = _
  rw [hout, Response.sentCoins]
  omega

/-- A run of transactions is a run of the pool. -/
theorem WorldStep.poolRun {address : Addr} {w w' : World} {ts : List (Transition World Event)}
    (run : Run (WorldStep address) w ts w') :
    Run PoolStep w.pool (ts.map fun t => ⟨t.pre.pool, t.label, t.post.pool⟩) w'.pool :=
  run.map World.pool id fun _ _ _ h => h.spec.1

/-! ## Computed runs -/

/-- Deploy the pool next to the given balances, and deliver the calls. -/
def deployAndDeliver (deps : Deps) (env : Env) (info : MessageInfo) (msg : InstantiateMsg)
    (bank : Bank) (calls : List Call) :
    ContractResult (World × List (Transition World Event) × World) := do
  let (pool, _) ← instantiate deps env info msg
  let (ts, w) ← replay (deliver env.contractAddress)
    (fun c response => ({ c with response } : Event)) { pool, bank } calls
  return ({ pool, bank }, ts, w)

/-- Whether all calls are delivered, and the last state passes `check`. -/
def deliverCheck (deps : Deps) (env : Env) (info : MessageInfo) (msg : InstantiateMsg)
    (bank : Bank) (calls : List Call) (check : World → Bool) : Bool :=
  match deployAndDeliver deps env info msg bank calls with
  | .ok (_, _, w) => check w
  | .error _ => false

theorem exists_worldRun {deps : Deps} {env : Env} {info : MessageInfo} {msg : InstantiateMsg}
    {bank : Bank} {calls : List Call} {check : World → Bool}
    (h : deliverCheck deps env info msg bank calls check = true) :
    ∃ w₀ ts w, DeployedAt env.blockTime w₀.pool ∧ w₀.bank = bank ∧
      Run (WorldStep env.contractAddress) w₀ ts w ∧
      ts.map (fun t => t.label.toCall) = calls ∧ check w = true := by
  unfold deliverCheck at h
  split at h
  · rename_i w₀ ts w hdeploy
    simp only [deployAndDeliver, bind_eq_ok, Prod.exists, pure_eq_ok, Prod.mk.injEq] at hdeploy
    obtain ⟨pool, response, hinst, ts', w', hreplay, rfl, rfl, rfl⟩ := hdeploy
    have hrun : Run (WorldStep env.contractAddress) { pool, bank } ts' w' ∧
        ts'.map (fun t => t.label.toCall) = calls :=
      replay_run (fun _ _ => rfl) (fun _ _ _ _ h => h) hreplay
    exact ⟨_, ts', w', .instantiated rfl hinst, rfl, hrun.1, hrun.2, h⟩
  · cases h

namespace Demo

/-- What the accounts hold when the pool is deployed. -/
def bank : Bank := fun a d =>
  if d = "usd" then if a = "pool" then 7 else 100000
  else if d = "gold" ∧ a ≠ "pool" then 500 else 0

/-- The pool lends `usd`, and Alice owes 500 at the end of the season. -/
def worldSeasonCheck (w : World) : Bool :=
  decide (w.pool.contract.lendingDenom.name = "usd") &&
    decide ((w.pool.getScaledBorrow "alice").val = 500)

theorem worldSeason_check {w : World} (h : worldSeasonCheck w = true) :
    w.pool.contract.lendingDenom.name = "usd" ∧ (w.pool.getScaledBorrow "alice").val = 500 := by
  simpa [worldSeasonCheck] using h

theorem worldSeason_ok :
    deliverCheck (deps 10) (env 0) ⟨"owner", []⟩ msg bank season worldSeasonCheck = true := by
  decide +kernel

end Demo

end DemocratizedPrime
