import DemocratizedPrime.Pool.Steps
import DemocratizedPrime.Lib.Replay

/-!
# Replaying a run

`deployAndReplay` instantiates a pool and executes a list of calls on it.  It is
executable, so a run with given calls can be computed: `exists_run` turns a check of
the final state that evaluates to `true` into a run that ends in such a state.

The pool `demo` is small: it lends `usd`, takes `gold` as collateral, and its
oracle quotes both.
-/

namespace DemocratizedPrime

open Result Transitions

/-- Execute the calls in order. -/
def replayCalls : PoolStorage → List Call →
    ContractResult (List (Transition PoolStorage Event) × PoolStorage) :=
  replay (fun s c => execute c.deps s c.env c.info c.msg) fun c response => { c with response }

/-- Instantiate a pool and execute the calls on it. -/
def deployAndReplay (deps : Deps) (env : Env) (info : MessageInfo) (msg : InstantiateMsg)
    (calls : List Call) :
    ContractResult (PoolStorage × List (Transition PoolStorage Event) × PoolStorage) := do
  let (s₀, _) ← instantiate deps env info msg
  let (ts, s) ← replayCalls s₀ calls
  return (s₀, ts, s)

/-- Whether the calls succeed and lead to a state that passes `check`. -/
def replayCheck (deps : Deps) (env : Env) (info : MessageInfo) (msg : InstantiateMsg)
    (calls : List Call) (check : PoolStorage → Bool) : Bool :=
  match deployAndReplay deps env info msg calls with
  | .ok (_, _, s) => check s
  | .error _ => false

theorem exists_run {deps : Deps} {env : Env} {info : MessageInfo} {msg : InstantiateMsg}
    {calls : List Call} {check : PoolStorage → Bool}
    (h : replayCheck deps env info msg calls check = true) :
    ∃ s₀ ts s, DeployedAt env.blockTime s₀ ∧ Run PoolStep s₀ ts s ∧
      ts.map (fun t => t.label.toCall) = calls ∧ check s = true := by
  unfold replayCheck at h
  split at h
  · rename_i s₀ ts s hdeploy
    simp only [deployAndReplay, bind_eq_ok, Prod.exists, pure_eq_ok, Prod.mk.injEq] at hdeploy
    obtain ⟨s₁, response, hinst, ts', s', hreplay, rfl, rfl, rfl⟩ := hdeploy
    have hrun : Run PoolStep s₁ ts' s' ∧ ts'.map (fun t => t.label.toCall) = calls :=
      replay_run (fun _ _ => rfl) (fun _ _ _ _ h => h) hreplay
    obtain ⟨run, hcalls⟩ := hrun
    exact ⟨s₁, ts', s', .instantiated rfl hinst, run, hcalls, h⟩
  · cases h

/-- Execute a call, as an event. -/
def fire (c : Call) (s : PoolStorage) : ContractResult (PoolStorage × Event) := do
  let (s', response) ← execute c.deps s c.env c.info c.msg
  return (s', { c with response })

theorem fire_step {c : Call} {s s' : PoolStorage} {e : Event} (h : fire c s = .ok (s', e)) :
    PoolStep s e s' ∧ e.toCall = c := by
  simp only [fire, bind_eq_ok, Prod.exists, pure_eq_ok, Prod.mk.injEq] at h
  obtain ⟨s₁, response, hexecute, rfl, rfl⟩ := h
  exact ⟨hexecute, rfl⟩

/-! ## A small pool -/

namespace Demo

/-- `n` percent. -/
def percent (n : Nat) : Decimal256 := ⟨n * 10 ^ 16 % 2 ^ 256, Nat.mod_lt _ (by decide)⟩

/-- `n` units of a denomination with 18 decimals. -/
def tokens (n : Nat) : Uint128 := ⟨n * 10 ^ 18 % 2 ^ 128, Nat.mod_lt _ (by decide)⟩

/-- A quote of `usd` dollars a unit that expires in the year 2033. -/
def quote (usd : Nat) : AssetPriceResponseV1 where
  priceUsd := percent (usd * 100)
  displayPriceUsd := percent (usd * 100)
  precision := 0
  asOfEpochSecond := 0
  expirationEpochSeconds := 2000000000

/-- Addresses are always valid, nobody has attributes, and the oracle stores these
quotes. -/
def depsFor (quotes : String → Option AssetPriceResponseV1) : Deps where
  addrError _ := none
  oraclePrice _ asset := .ok (quotes asset)
  attributeNames _ _ := .ok []
  scan _ _ _ := .ok ⟨[], none⟩
  balance _ _ := .ok 1000000
  scaledBalance _ _ := .ok 1000

/-- Gold is at the price given. -/
def deps (gold : Nat) : Deps :=
  depsFor fun asset => if asset = "usd" then some (quote 1)
    else if asset = "gold" then some (quote gold) else none

/-- The block `seconds` after the deployment. -/
def env (seconds : Nat) : Env where
  blockTime := ⟨⟨(1700000000 + seconds) * 1000000000 % 2 ^ 64, Nat.mod_lt _ (by decide)⟩⟩
  blockHeight := 1
  contractAddress := "pool"

/-- A pool that lends `usd` against `gold`. -/
def msg : InstantiateMsg where
  contractName := "prime"
  description := ""
  repoToken := .existing "repo"
  lendingDenom := ⟨"usd", 0⟩
  rateParams := {
    targetRate := percent 10
    minRate := percent 5
    maxRate := percent 100
    kinkUtilization := percent 80
    reserveFactor := percent 10
    feeModel := .reserveFactor
    flatFeeApr := percent 0
    secondsPerYear := 31536000 }
  lenderRequiredAttrs := []
  borrowerRequiredAttrs := []
  priceOracleAddress := "oracle"
  maxBorrowerCollateralTypes := 3
  marginRate := percent 70
  liquidationRate := percent 80
  liquidationBonusRate := percent 105
  minLend := 1
  minBorrow := 1
  supportedCollateralAssets := [⟨"gold", some (percent 90)⟩]
  commitMarketId := none
  badDebtLossAllocation := .immediateLiquidityIndexHaircut
  custodian := "custodian"
  liquidator := "liquidator"
  maxLiquidationStalenessSeconds := 60
  liquidationAccess := .liquidatorOnly

/-- A call in the block of the deployment, with gold at ten dollars. -/
def call (sender : Addr) (funds : List Coin) (m : ExecuteMsg) : Call :=
  ⟨deps 10, env 0, ⟨sender, funds⟩, m⟩

/-- A lender and a borrower arrive. -/
def opening : List Call :=
  [call "lender" [⟨"usd", 1000⟩] .lend, call "alice" [⟨"gold", 100⟩] .addCollateral,
    call "alice" [] (.borrow 500)]

/-- Alice has borrowed 500 against 100 units of gold. -/
def openingCheck (s : PoolStorage) : Bool :=
  decide ((s.getScaledBorrow "alice").val = 500) &&
    decide ((s.getTotalCollateralByAsset "gold").val = 100)

theorem opening_check {s : PoolStorage} (h : openingCheck s = true) :
    (s.getScaledBorrow "alice").val = 500 ∧
      (s.getTotalCollateralByAsset "gold").val = 100 := by
  simpa [openingCheck] using h

theorem opening_ok :
    replayCheck (deps 10) (env 0) ⟨"owner", []⟩ msg opening openingCheck = true := by
  decide +kernel

/-- Another lender arrives a thousand seconds later. -/
def season : List Call :=
  opening ++ [⟨deps 10, env 1000, ⟨"carol", [⟨"usd", 200⟩]⟩, .lend⟩]

theorem season_ok :
    replayCheck (deps 10) (env 0) ⟨"owner", []⟩ msg season (fun _ => true) = true := by
  decide +kernel

/-- Gold falls to one dollar, and Alice's position is written off: all her gold is
sold for 96 dollars. -/
def crash : List Call :=
  opening ++ [⟨deps 1, env 0, ⟨"liquidator", [⟨"usd", 96⟩]⟩,
    .liquidate "alice" ((∅ : Amounts).insert "gold" 100)⟩]

/-- The same pool, which books the losses as a deficit. -/
def deferredMsg : InstantiateMsg := { msg with badDebtLossAllocation := .deferredToDeficit }

/-- The loss of the crash is booked. -/
def deficitCheck (s : PoolStorage) : Bool := decide (s.reserve.deficitUnderlying.val = 404)

theorem deficit_ok :
    replayCheck (deps 10) (env 0) ⟨"owner", []⟩ deferredMsg crash deficitCheck = true := by
  decide +kernel

end Demo

end DemocratizedPrime
