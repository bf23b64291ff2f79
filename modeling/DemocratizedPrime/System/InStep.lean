import DemocratizedPrime.System.Transaction

/-!
# The pool and its token in lock-step

Between two transactions the token's supply is the pool's scaled total, and the pool owns
no repo tokens itself.  Within one this breaks: a `Send` credits the pool before the pool
has done anything, and the pool writes its new total before the token has burned.

`InStep w held` is the invariant with the pool's own balance as a parameter, and the proof
follows the call tree.  The messages that the pool returns are executed one after the
other; `Settled` says what a list of them does to the supply and to the pool's balance,
and composes.  `PoolStep.tokenTraffic` says that the pool's total moves by the same amount,
and that the list spends exactly what the pool was handed, so `callPool` leads from
`InStep w received` back to `InStep w 0`.
-/

namespace DemocratizedPrime

open Result Transitions ShareLedger RepoToken

variable {w : Wiring} {tx : Tx} {sys sys' : System}

/-! ## The messages of the pool -/

/-- The calls that do not touch the pool's balance from outside: the pool mints for others
and burns from others. -/
def AvoidsPool (w : Wiring) : RepoTokenMsg → Prop
  | .mint recipient _ => recipient ≠ w.pool
  | .burnFrom owner _ => owner ≠ w.pool
  | _ => True

/-- What executing the pool's calls of the token does. -/
structure Settled (w : Wiring) (sys : System) (calls : List (Addr × RepoTokenMsg))
    (sys' : System) : Prop where
  pool : sys'.pool = sys.pool
  config : sys'.token.config = sys.token.config
  ledger : TokenLedger sys.token → TokenLedger sys'.token
  supply : sys'.token.tokenInfo.totalSupply.val + totalOf RepoTokenMsg.burned calls =
    sys.token.tokenInfo.totalSupply.val + totalOf RepoTokenMsg.minted calls
  balance : (sys'.token.balance w.pool).val + totalOf RepoTokenMsg.spent calls =
    (sys.token.balance w.pool).val

namespace Settled

theorem nil (w : Wiring) (sys : System) : Settled w sys [] sys :=
  ⟨rfl, rfl, id, rfl, rfl⟩

/-- A message that only the bank sees. -/
theorem ofBank (w : Wiring) (sys : System) (bank : Bank) : Settled w sys [] { sys with bank } :=
  ⟨rfl, rfl, id, rfl, rfl⟩

theorem append {sys'' : System} {calls more : List (Addr × RepoTokenMsg)}
    (h : Settled w sys calls sys') (h' : Settled w sys' more sys'') :
    Settled w sys (calls ++ more) sys'' := by
  have hsupply := h.supply
  have hsupply' := h'.supply
  have hbalance := h.balance
  have hbalance' := h'.balance
  refine ⟨h'.pool.trans h.pool, h'.config.trans h.config, fun ht => h'.ledger (h.ledger ht), ?_, ?_⟩
  · rw [totalOf_append, totalOf_append]
    omega
  · rw [totalOf_append]
    omega

end Settled

/-- One call of the token by the pool. -/
theorem Settled.ofCall {t' : TokenStorage} {env : Env} {msg : RepoTokenMsg} {res : TokenResponse}
    (hmsg : AvoidsPool w msg)
    (h : RepoToken.execute tx.deps sys.token env ⟨w.pool, []⟩ msg.toExecuteMsg = .ok (t', res)) :
    Settled w sys [(w.token, msg)] { sys with token := t' } := by
  have heffect := execute_effect h
  cases msg with
  | mint recipient amount =>
    cases heffect with
    | mint _ _ change _ =>
      refine ⟨rfl, change.config, change.ledger, change.supply, ?_⟩
      exact change.balances.other fun he => hmsg he.symm
  | burn amount =>
    cases heffect with
    | burn _ _ change _ =>
      exact ⟨rfl, change.config, change.ledger, change.supply, change.balances.self.symm⟩
  | burnFrom owner amount =>
    cases heffect with
    | burnFrom _ _ change _ =>
      refine ⟨rfl, change.config, change.ledger, change.supply, ?_⟩
      exact (change.balances.other fun he => hmsg he.symm).symm
  | transfer recipient amount =>
    cases heffect with
    | transfer _ _ elsewhere change _ =>
      refine ⟨rfl, change.config, change.ledger, ?_, ?_⟩
      · rw [change.supply]
        rfl
      · have howned := change.balances.owned w.pool
        rw [if_pos rfl, if_neg fun he => elsewhere he.symm] at howned
        exact howned

/-- The messages of the pool, executed in order. -/
theorem Settled.ofMessages {messages : List CosmosMsg}
    (havoid : ∀ call ∈ messages.filterMap CosmosMsg.tokenCall?, AvoidsPool w call.2)
    (h : messages.foldlM (System.runMessage w tx) sys = .ok sys') :
    Settled w sys (messages.filterMap CosmosMsg.tokenCall?) sys' := by
  induction messages generalizing sys with
  | nil =>
    rw [List.foldlM_nil, pure_eq_ok] at h
    rw [← h]
    exact .nil w sys
  | cons m rest ih =>
    rw [List.foldlM_cons, bind_eq_ok] at h
    obtain ⟨mid, hmid, hrest⟩ := h
    cases m with
    | bankSend toAddress coins =>
      simp only [System.runMessage, bind_eq_ok, pure_eq_ok] at hmid
      obtain ⟨bank, -, rfl⟩ := hmid
      exact (Settled.ofBank w sys bank).append (ih havoid hrest)
    | wasmExecute contractAddr msg =>
      simp only [System.runMessage, bind_eq_ok, ensure_eq_ok, exists_const, Prod.exists,
        pure_eq_ok] at hmid
      obtain ⟨rfl, token, res, hexecute, rfl⟩ := hmid
      have hfirst := havoid _ List.mem_cons_self
      have hlater := ih (fun call hcall => havoid call (List.mem_cons_of_mem _ hcall)) hrest
      exact (Settled.ofCall hfirst hexecute).append hlater
    | wasmInstantiate request => cases hmid
    | commit request =>
      simp only [System.runMessage, bind_eq_ok, pure_eq_ok] at hmid
      obtain ⟨bank, -, rfl⟩ := hmid
      exact (Settled.ofBank w sys bank).append (ih havoid hrest)

/-! ## The invariant -/

/-- The supply is the scaled total, and the pool itself owns `held` units. -/
structure InStep (w : Wiring) (held : Nat) (sys : System) : Prop where
  pool : Reachable sys.pool
  ledger : TokenLedger sys.token
  supply : sys.token.tokenInfo.totalSupply.val = sys.pool.reserve.totalScaledLiquidity.val
  holding : (sys.token.balance w.pool).val = held
  bound : sys.pool.contract.repoTokenCw20Address = some w.token

/-- The token answers the pool with the stored balance. -/
theorem askToken_scaledBalance {deps : Deps} {address account : Addr} {token : TokenStorage}
    {bal : Uint128} (h : (deps.askToken address token).scaledBalance address account = .ok bal) :
    bal = token.balance account := by
  simp only [Deps.askToken, if_true] at h
  split at h
  · rename_i balance hbalance
    simp only [queryScaledBalance, bind_eq_ok, addrValidate_eq_ok, pure_eq_ok] at hbalance
    obtain ⟨_, ⟨-, rfl⟩, rfl⟩ := hbalance
    exact (Except.ok.inj h).symm
  · cases h
  · cases h

/-- The pool uses up what it was handed, and the two totals move together. -/
theorem callPool_inStep {info : MessageInfo} {msg : ExecuteMsg}
    (h : sys.callPool w tx info msg = .ok sys') (hsender : info.sender ≠ w.pool)
    (hsys : InStep w msg.received sys) : InStep w 0 sys' := by
  simp only [System.callPool, bind_eq_ok, Prod.exists] at h
  obtain ⟨pool, response, hexecute, hmessages⟩ := h
  let e : Event := ⟨⟨tx.deps.askToken w.token sys.token, tx.env w.pool, info, msg⟩, response⟩
  have hstep : PoolStep sys.pool e pool := hexecute
  have traffic := hstep.tokenTraffic
  have htoken : ∀ call ∈ response.tokenCalls, call.1 = w.token := by
    intro call hcall
    have htarget := traffic.target call hcall
    rw [hsys.bound] at htarget
    exact (Option.some.inj htarget).symm
  have havoid : ∀ call ∈ response.tokenCalls, AvoidsPool w call.2 := by
    rintro ⟨token, msg'⟩ hcall
    cases msg' with
    | mint recipient amount =>
      have hrecipient : recipient = info.sender := traffic.mints token recipient amount hcall
      rw [hrecipient]
      exact hsender
    | burn amount => trivial
    | burnFrom owner amount =>
      -- The pool has nothing to burn unless it was handed something, and then it does not
      -- burn from others.
      rintro rfl
      obtain ⟨hreceived, bal, hbal, hpos⟩ := traffic.burnsFrom token w.pool amount hcall
      have hcontract : token = w.token := htoken _ hcall
      rw [hcontract] at hbal
      have hholding := hsys.holding
      rw [askToken_scaledBalance hbal, hholding] at hpos
      exact absurd hreceived (Nat.ne_of_gt hpos)
    | transfer recipient amount => trivial
  have hsettled := Settled.ofMessages havoid hmessages
  have hsupply := hsettled.supply
  have hbalance := hsettled.balance
  have htotal := traffic.supply_eq
  have hspent := traffic.spent_eq
  have hheld := hsys.holding
  have hbefore := hsys.supply
  have hpool : sys'.pool = pool := hsettled.pool
  dsimp only [Response.tokenCalls, e] at hsupply hbalance htotal hspent
  refine ⟨?_, hsettled.ledger hsys.ledger, ?_, ?_, ?_⟩
  · rw [hpool]
    exact hsys.pool.step hstep
  · rw [hpool]
    omega
  · omega
  · rw [hpool, hstep.repoToken_eq, hsys.bound]

/-- A `Send` leaves the pool with the units that were sent. -/
theorem InStep.afterSend {t' : TokenStorage} {sender : Addr} {amount : Uint128}
    (h : InStep w 0 sys) (hsender : sender ≠ w.pool)
    (change : Transferred sys.token sender w.pool amount.val t') :
    InStep w amount.val { sys with token := t' } := by
  refine ⟨h.pool, change.ledger h.ledger, ?_, ?_, h.bound⟩
  · change t'.tokenInfo.totalSupply.val = _
    rw [change.supply]
    exact h.supply
  · have howned := change.balances.owned w.pool
    rw [if_neg fun he => hsender he.symm, if_pos rfl] at howned
    have hheld : (owned sys.token.balances w.pool).val = 0 := h.holding
    show (owned t'.balances w.pool).val = amount.val
    omega

/-- A message of an account to the token calls nobody and leaves balances and supply alone,
or it is a `Send` to the pool, and the pool answers. -/
theorem callToken_cases {info : MessageInfo} {msg : RepoToken.ExecuteMsg}
    (h : sys.callToken w tx info msg = .ok sys') (hsender : info.sender ≠ w.pool)
    (hwired : Wired w sys.token) :
    ∃ token response,
      RepoToken.execute tx.deps sys.token (tx.env w.token) info msg = .ok (token, response) ∧
      ((response.receive = none ∧ token.balances = sys.token.balances ∧
          token.tokenInfo = sys.token.tokenInfo ∧ sys' = { sys with token }) ∨
        ∃ amount body, msg = .send w.pool amount body ∧
          Transferred sys.token info.sender w.pool amount.val token ∧
          response.receive = some (w.pool, ⟨info.sender, amount, body⟩) ∧
          System.callPool w tx { sys with token } ⟨w.token, []⟩
            (.receive ⟨info.sender, amount, body⟩) = .ok sys') := by
  simp only [System.callToken, bind_eq_ok, Prod.exists] at h
  obtain ⟨token, response, hexecute, h⟩ := h
  have hminter : info.sender ≠ sys.token.config.minter := by
    rw [hwired]
    exact hsender
  have hpoolAddress : sys.token.config.poolAddress = some w.pool := by rw [hwired]
  refine ⟨token, response, hexecute, ?_⟩
  cases execute_effect hexecute with
  | updateOwnership quiet =>
    rw [quiet] at h
    exact Or.inl ⟨quiet, rfl, rfl, (pure_eq_ok.mp h).symm⟩
  | mint minter => exact absurd minter hminter
  | burn minter => exact absurd minter hminter
  | burnFrom minter => exact absurd minter hminter
  | transfer pool =>
    rw [hpoolAddress] at pool
    exact absurd (Option.some.inj pool).symm hsender
  | @send contract amount body t' res pool nonzero change call =>
    rw [hpoolAddress] at pool
    obtain rfl := Option.some.inj pool
    rw [call] at h
    simp only [bind_eq_ok, ensure_eq_ok, exists_const] at h
    exact Or.inr ⟨amount, body, rfl, change, call, h.2⟩
  | updateConfig owner quiet =>
    rw [quiet] at h
    exact Or.inl ⟨quiet, rfl, rfl, (pure_eq_ok.mp h).symm⟩

/-- A `Send` hands the pool what it then uses up, and nothing else that an account can do
to the token moves the supply. -/
theorem callToken_inStep {info : MessageInfo} {msg : RepoToken.ExecuteMsg}
    (h : sys.callToken w tx info msg = .ok sys') (hsender : info.sender ≠ w.pool)
    (hwired : Wired w sys.token) (hsys : InStep w 0 sys) : InStep w 0 sys' := by
  obtain ⟨token, response, -, ⟨-, hbalances, hinfo, rfl⟩ | ⟨amount, body, -, change, -, hcall⟩⟩ :=
    callToken_cases h hsender hwired
  · have hledger : TokenLedger token := by
      refine ⟨?_, ?_⟩
      · rw [hbalances, hinfo]
        exact hsys.ledger.supply
      · rw [hbalances]
        exact hsys.ledger.noZero
    refine ⟨hsys.pool, hledger, ?_, ?_, hsys.bound⟩
    · change token.tokenInfo.totalSupply.val = _
      rw [hinfo]
      exact hsys.supply
    · change (owned token.balances w.pool).val = 0
      rw [hbalances]
      exact hsys.holding
  · exact callPool_inStep hcall (fun he => w.distinct he.symm) (hsys.afterSend hsender change)

/-- An account cannot play the token towards the pool. -/
theorem callPool_received_eq_zero {info : MessageInfo} {msg : ExecuteMsg}
    (h : sys.callPool w tx info msg = .ok sys') (hsender : info.sender ≠ w.token)
    (hbound : sys.pool.contract.repoTokenCw20Address = some w.token) : msg.received = 0 := by
  simp only [System.callPool, bind_eq_ok, Prod.exists] at h
  obtain ⟨pool, response, hexecute, -⟩ := h
  let e : Event := ⟨⟨tx.deps.askToken w.token sys.token, tx.env w.pool, info, msg⟩, response⟩
  have hstep : PoolStep sys.pool e pool := hexecute
  apply hstep.received_eq_zero
  rw [hbound]
  exact fun he => hsender (Option.some.inj he).symm

/-- Every transaction of an account leads from lock-step to lock-step. -/
theorem SystemStep.inStep (h : SystemStep w sys tx sys') (hwired : Wired w sys.token)
    (hsys : InStep w 0 sys) : InStep w 0 sys' := by
  simp only [SystemStep, System.transact, bind_eq_ok, ensure_eq_ok, exists_const] at h
  obtain ⟨⟨hpool, htoken⟩, h⟩ := h
  have hfunded (bank : Bank) : InStep w 0 { sys with bank } :=
    ⟨hsys.pool, hsys.ledger, hsys.supply, hsys.holding, hsys.bound⟩
  split at h
  · simp only [bind_eq_ok] at h
    obtain ⟨bank, -, h⟩ := h
    have hreceived := callPool_received_eq_zero h htoken hsys.bound
    apply callPool_inStep h hpool
    rw [hreceived]
    exact hfunded bank
  · simp only [bind_eq_ok] at h
    obtain ⟨bank, -, h⟩ := h
    exact callToken_inStep h hpool hwired (hfunded bank)

theorem SystemStart.inStep (h : SystemStart w sys) : InStep w 0 sys := by
  obtain ⟨t, hdeployed⟩ := h.deployed
  have hledger := h.reachable.ledger
  have hbalance := hledger.balance_le_supply w.pool
  refine ⟨⟨t, _, _, hdeployed, .nil⟩, hledger, ?_, ?_, h.bound⟩
  · rw [h.empty, hdeployed.fresh.reserve]
    rfl
  · rw [h.empty] at hbalance
    exact Nat.le_zero.mp hbalance

end DemocratizedPrime
