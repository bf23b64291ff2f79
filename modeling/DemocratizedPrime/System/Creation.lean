import DemocratizedPrime.System.LockStep

/-!
# Creating a pool with its token

With `RepoTokenConfig.new`, `instantiate` of the pool returns one message, which creates the
token, and the host hands the outcome to `reply` (`reply_always`).  `createSystem` executes
all of it as the one transaction that it is.

The token cannot refuse what the pool asks for, so a creation fails only for reasons that
the pool or the chain has (`createSystem_ok_iff`).  The two contracts come out wired to each other,
and stay in lock-step in every run in which nobody points the token elsewhere
(`created_system_in_lock_step`).
-/

namespace DemocratizedPrime

open Result Transitions RepoToken

/-- The message to the new token. -/
def InstantiateRequest.toInstantiateMsg (request : InstantiateRequest) :
    RepoToken.InstantiateMsg where
  name := request.name
  symbol := request.symbol
  decimals := request.decimals
  owner := request.owner
  minter := request.minter
  poolAddress := request.poolAddress

/-- Create a pool that brings its own token, where `codeId` is the code of `RepoToken`.  The
host words the failure of the token for `reply` by `report`.  A pool with an existing token
is not created this way. -/
def createSystem (w : Wiring) (deps : Deps) (env : Env) (report : ContractError → String)
    (info : MessageInfo) (msg : InstantiateMsg) (bank : Bank) : ContractResult System := do
  let bank ← payCoins info.sender w.pool bank info.funds
  let (pool, response) ← instantiate deps { env with contractAddress := w.pool } info msg
  match response.messages with
  | [.wasmInstantiate request] => do
    let outcome := RepoToken.instantiate deps request.toInstantiateMsg
    let (pool, _) ← reply deps pool (match outcome with
      | .ok _ => .ok w.token
      | .error e => .error (report e))
    let (token, _) ← outcome
    return { pool, token, bank }
  | _ => throw (.std "no repo token is created")

/-! ## The new token -/

section

variable {w : Wiring} {deps : Deps} {env : Env} {report : ContractError → String}
  {info : MessageInfo} {msg : InstantiateMsg} {bank : Bank} {sys : System}

/-- The pool asks for a token that is its own, and has checked what the token checks. -/
structure TokenRequest (pool owner : Addr) (config : RepoTokenConfig)
    (request : InstantiateRequest) : Prop where
  isNew : ∀ address, config ≠ .existing address
  described : validateRepoTokenMeta request.name request.symbol request.decimals = .ok ()
  owned : request.owner = owner
  minter : request.minter = pool
  poolAddress : request.poolAddress = some pool

theorem bindRepoToken_request {pool owner : Addr} {contractName : String}
    {config : RepoTokenConfig} {address : Option Addr} {request : Option InstantiateRequest}
    (h : bindRepoToken deps pool owner contractName config = .ok (address, request)) :
    (request = none ∧ ∃ existing, config = .existing existing) ∨
      ∃ asked, request = some asked ∧ address = none ∧ TokenRequest pool owner config asked := by
  cases config with
  | existing existing =>
    simp only [bindRepoToken, bind_eq_ok, pure_eq_ok, Prod.mk.injEq] at h
    obtain ⟨-, -, -, -, -, rfl⟩ := h
    exact Or.inl ⟨rfl, existing, rfl⟩
  | new codeId name symbol decimals =>
    simp only [bindRepoToken, bind_eq_ok, ensure_eq_ok, exists_const] at h
    obtain ⟨-, h⟩ := h
    split at h
    · cases h
    · rename_i hmeta
      rw [pure_eq_ok, Prod.mk.injEq] at h
      obtain ⟨rfl, rfl⟩ := h
      exact Or.inr ⟨_, rfl, rfl, fun address => RepoTokenConfig.noConfusion, hmeta, rfl, rfl, rfl⟩

/-- A new pool asks for its token, and waits for the address, or has a token already. -/
theorem instantiate_request {pool : PoolStorage} {response : Response}
    (h : instantiate deps env info msg = .ok (pool, response)) :
    pool.ownership = Ownership.initializeOwner info.sender ∧
      ((response.messages = [] ∧ ∃ existing, msg.repoToken = .existing existing) ∨
        ∃ request, response.messages = [.wasmInstantiate request] ∧
          pool.contract.repoTokenCw20Address = none ∧
          TokenRequest env.contractAddress info.sender msg.repoToken request) := by
  simp only [instantiate, bind_eq_ok, Prod.exists, ensure_eq_ok, exists_const, pure_eq_ok,
    Prod.mk.injEq, checkStaleness] at h
  obtain ⟨-, -, -, -, -, -, address, request, hbind, -, -, oracle, -, -, -, -, -, -, -, -, -, -, -,
    -, -, -, -, -, -, -, -, -, custodian, -, liquidator, -, rfl, rfl⟩ := h
  refine ⟨rfl, ?_⟩
  rcases bindRepoToken_request hbind with ⟨rfl, hexisting⟩ | ⟨asked, rfl, rfl, hasked⟩
  · exact Or.inl ⟨rfl, hexisting⟩
  · exact Or.inr ⟨asked, rfl, rfl, hasked⟩

/-- The token accepts every request of a pool, if the chain knows the addresses. -/
theorem TokenRequest.instantiate_eq_ok {pool owner : Addr} {config : RepoTokenConfig}
    {request : InstantiateRequest} {token : TokenStorage} {res : TokenResponse}
    (asked : TokenRequest pool owner config request) :
    RepoToken.instantiate deps request.toInstantiateMsg = .ok (token, res) ↔
      deps.addrError owner = none ∧ deps.addrError pool = none ∧
        token = {
          balances := ∅
          tokenInfo := ⟨request.name, request.symbol, request.decimals, 0⟩
          config := ⟨pool, some pool⟩
          ownership := Ownership.initializeOwner owner } ∧
        res = ⟨none, [("action", "instantiate")]⟩ := by
  unfold RepoToken.instantiate InstantiateRequest.toInstantiateMsg
  simp only [asked.described, asked.owned, asked.minter, asked.poolAddress, validateOptional,
    bind_eq_ok, addrValidate_eq_ok, pure_eq_ok, Prod.mk.injEq]
  constructor
  · rintro ⟨_, ⟨howner, rfl⟩, _, ⟨hpool, rfl⟩, _, ⟨_, ⟨-, rfl⟩, rfl⟩, rfl, rfl⟩
    exact ⟨howner, hpool, rfl, rfl⟩
  · rintro ⟨howner, hpool, rfl, rfl⟩
    exact ⟨_, ⟨howner, rfl⟩, _, ⟨hpool, rfl⟩, _, ⟨_, ⟨hpool, rfl⟩, rfl⟩, rfl, rfl⟩

/-! ## The transaction -/

/-- The parts of a creation: the pool's own checks, its request, and the token. -/
theorem createSystem_parts (h : createSystem w deps env report info msg bank = .ok sys) :
    ∃ funded pool response request res,
      payCoins info.sender w.pool bank info.funds = .ok funded ∧
      instantiate deps { env with contractAddress := w.pool } info msg = .ok (pool, response) ∧
      response.messages = [.wasmInstantiate request] ∧
      RepoToken.instantiate deps request.toInstantiateMsg = .ok (sys.token, res) ∧
      (∃ res, reply deps pool (.ok w.token) = .ok (sys.pool, res)) ∧ sys.bank = funded := by
  simp only [createSystem, bind_eq_ok, Prod.exists] at h
  obtain ⟨funded, hpay, pool, response, hinstantiate, h⟩ := h
  split at h
  · rename_i request hrequest
    simp only [bind_eq_ok, Prod.exists, pure_eq_ok] at h
    obtain ⟨pool', res, hreply, token, tokenRes, htoken, rfl⟩ := h
    rw [htoken] at hreply
    exact ⟨funded, pool, response, request, tokenRes, hpay, hinstantiate, hrequest, htoken,
      ⟨res, hreply⟩, rfl⟩
  · cases h

/-- A system is created exactly when the pool brings its own token and passes its own checks,
the creator has the coins, and the chain accepts the addresses of the creator and of the
contracts.  The token has nothing to add. -/
theorem createSystem_ok_iff :
    (∃ sys, createSystem w deps env report info msg bank = .ok sys) ↔
      (∀ address, msg.repoToken ≠ .existing address) ∧
        (∃ funded, payCoins info.sender w.pool bank info.funds = .ok funded) ∧
        (∃ out, instantiate deps { env with contractAddress := w.pool } info msg = .ok out) ∧
        deps.addrError info.sender = none ∧ deps.addrError w.pool = none ∧
        deps.addrError (trim w.token) = none := by
  constructor
  · rintro ⟨sys, h⟩
    obtain ⟨funded, pool, response, request, res, hpay, hinstantiate, hrequest, htoken,
      ⟨_, hreply⟩, -⟩ := createSystem_parts h
    obtain ⟨-, ⟨hnone, -⟩ | ⟨asked, hasked, -, hsound⟩⟩ := instantiate_request hinstantiate
    · rw [hrequest] at hnone
      cases hnone
    · rw [hrequest] at hasked
      cases hasked
      obtain ⟨howner, hpool, -, -⟩ := hsound.instantiate_eq_ok.mp htoken
      simp only [reply, bind_eq_ok, addrValidate_eq_ok] at hreply
      obtain ⟨_, ⟨haddress, -⟩, -⟩ := hreply
      exact ⟨hsound.isNew, ⟨funded, hpay⟩, ⟨_, hinstantiate⟩, howner, hpool, haddress⟩
  · rintro ⟨hnew, ⟨funded, hpay⟩, ⟨⟨pool, response⟩, hinstantiate⟩, howner, hpool, haddress⟩
    obtain ⟨-, ⟨-, existing, hexisting⟩ | ⟨request, hrequest, hunbound, hsound⟩⟩ :=
      instantiate_request hinstantiate
    · exact absurd hexisting (hnew existing)
    · have htoken := hsound.instantiate_eq_ok.mpr ⟨howner, hpool, rfl, rfl⟩
      simp only [createSystem, hpay, hinstantiate, hrequest, htoken, ok_bind, reply,
        Deps.addrValidate, haddress, hunbound, ensure, if_true]
      exact ⟨_, rfl⟩

/-- The contracts of a new system are bound to each other, and the creator owns both.  The
address of the token has no blanks around it. -/
theorem createSystem_start (h : createSystem w deps env report info msg bank = .ok sys)
    (hhost : trim w.token = w.token) :
    SystemStart w sys ∧ sys.pool.ownership.owner = some info.sender ∧
      sys.token.ownership.owner = some info.sender := by
  obtain ⟨funded, pool, response, request, res, -, hinstantiate, hrequest, htoken, ⟨_, hreply⟩,
    -⟩ := createSystem_parts h
  obtain ⟨howner, ⟨hnone, -⟩ | ⟨asked, hasked, -, hsound⟩⟩ := instantiate_request hinstantiate
  · rw [hrequest] at hnone
    cases hnone
  · rw [hrequest] at hasked
    cases hasked
    obtain ⟨-, -, htokenState, -⟩ := hsound.instantiate_eq_ok.mp htoken
    obtain ⟨_, haddress, -, hpool⟩ := reply_spec hreply
    cases haddress
    refine ⟨⟨⟨_, .replied (.instantiated rfl hinstantiate) hreply⟩, ?_,
      ⟨deps, _, _, _, [], htoken, .nil⟩, instantiate_supply htoken, ?_⟩, ?_, ?_⟩
    · rw [hpool, hhost]
      rfl
    · rw [htokenState]
      rfl
    · rw [hpool]
      exact congrArg Ownership.owner howner
    · rw [htokenState]
      rfl

/-! ## Staying wired -/

/-- A transaction that does not point the token away from the pool. -/
def Tx.KeepsWiring (w : Wiring) (tx : Tx) : Prop :=
  ∀ minter poolAddress, tx.msg = .token (.updateConfig minter poolAddress) →
    minter.getD w.pool = w.pool ∧ poolAddress.getD w.pool = w.pool

/-- The calls of the pool do not configure the token. -/
theorem runMessage_config {tx : Tx} {sys sys' : System} {m : CosmosMsg}
    (h : sys.runMessage w tx m = .ok sys') : sys'.token.config = sys.token.config := by
  cases m with
  | bankSend toAddress coins =>
    simp only [System.runMessage, bind_eq_ok, pure_eq_ok] at h
    obtain ⟨bank, -, rfl⟩ := h
    rfl
  | wasmExecute contractAddr msg =>
    simp only [System.runMessage, bind_eq_ok, ensure_eq_ok, exists_const, Prod.exists,
      pure_eq_ok] at h
    obtain ⟨-, token, res, hexecute, rfl⟩ := h
    have heffect := execute_effect hexecute
    cases msg with
    | mint recipient amount =>
      cases heffect with
      | mint _ _ change _ => exact change.config
    | burn amount =>
      cases heffect with
      | burn _ _ change _ => exact change.config
    | burnFrom owner amount =>
      cases heffect with
      | burnFrom _ _ change _ => exact change.config
    | transfer recipient amount =>
      cases heffect with
      | transfer _ _ _ change _ => exact change.config
  | wasmInstantiate request => cases h
  | commit request =>
    simp only [System.runMessage, bind_eq_ok, pure_eq_ok] at h
    obtain ⟨bank, -, rfl⟩ := h
    rfl

theorem callPool_config {tx : Tx} {sys sys' : System} {info : MessageInfo} {msg : ExecuteMsg}
    (h : sys.callPool w tx info msg = .ok sys') : sys'.token.config = sys.token.config := by
  simp only [System.callPool, bind_eq_ok, Prod.exists] at h
  obtain ⟨pool, response, -, hmessages⟩ := h
  exact foldlM_ok_induct (fun _ (s : System) => s.token.config = sys.token.config)
    (fun _ (_ : CosmosMsg) _ _ hs hstep => (runMessage_config hstep).trans hs) (by rfl) hmessages

/-- Only `UpdateConfig` configures the token, and it keeps what it is not given. -/
theorem tokenExecute_config {t t' : TokenStorage} {msg : RepoToken.ExecuteMsg}
    {res : TokenResponse} (h : RepoToken.execute deps t env info msg = .ok (t', res)) :
    t'.config = t.config ∨
      ∃ minter poolAddress, msg = .updateConfig minter poolAddress ∧
        t'.config = ⟨minter.getD t.config.minter, poolAddress.or t.config.poolAddress⟩ := by
  have heffect := execute_effect h
  cases msg with
  | updateConfig minter poolAddress =>
    have hoptional : ∀ {address validated : Option String},
        validateOptional deps address = .ok validated → validated = address := by
      intro address validated hvalid
      cases address with
      | none => exact (pure_eq_ok.mp hvalid).symm
      | some address =>
        simp only [validateOptional, bind_eq_ok, addrValidate_eq_ok, pure_eq_ok] at hvalid
        obtain ⟨_, ⟨-, rfl⟩, rfl⟩ := hvalid
        rfl
    simp only [RepoToken.execute, executeUpdateConfig, Ownership.assertOwner, bind_eq_ok,
      ensure_eq_ok, exists_const, pure_eq_ok, Prod.mk.injEq] at h
    obtain ⟨-, newMinter, hminter, newPool, hpool, rfl, -⟩ := h
    rw [hoptional hminter, hoptional hpool]
    exact Or.inr ⟨minter, poolAddress, rfl, rfl⟩
  | updateOwnership action =>
    cases heffect
    exact Or.inl rfl
  | mint recipient amount =>
    cases heffect with
    | mint _ _ change _ => exact Or.inl change.config
  | burn amount =>
    cases heffect with
    | burn _ _ change _ => exact Or.inl change.config
  | burnFrom owner amount =>
    cases heffect with
    | burnFrom _ _ change _ => exact Or.inl change.config
  | transfer recipient amount =>
    cases heffect with
    | transfer _ _ _ change _ => exact Or.inl change.config
  | send contract amount body =>
    cases heffect with
    | send _ _ change _ => exact Or.inl change.config

theorem callToken_wired {tx : Tx} {sys sys' : System} {info : MessageInfo}
    {msg : RepoToken.ExecuteMsg} (h : sys.callToken w tx info msg = .ok sys')
    (hmsg : ∀ minter poolAddress, msg = .updateConfig minter poolAddress →
      minter.getD w.pool = w.pool ∧ poolAddress.getD w.pool = w.pool)
    (hwired : Wired w sys.token) : Wired w sys'.token := by
  simp only [System.callToken, bind_eq_ok, Prod.exists] at h
  obtain ⟨token, response, hexecute, h⟩ := h
  have htoken : Wired w token := by
    unfold Wired at hwired ⊢
    obtain hsame | ⟨minter, poolAddress, rfl, hconfig⟩ := tokenExecute_config hexecute
    · rw [hsame, hwired]
    · obtain ⟨hminter, hpool⟩ := hmsg minter poolAddress rfl
      rw [hconfig, hwired, Config.mk.injEq]
      refine ⟨hminter, ?_⟩
      cases poolAddress with
      | none => rfl
      | some address => exact congrArg some hpool
  split at h
  · rw [← pure_eq_ok.mp h]
    exact htoken
  · simp only [bind_eq_ok, ensure_eq_ok, exists_const] at h
    exact (callPool_config h.2).trans htoken

/-- A transaction leaves the token wired, unless it is an `UpdateConfig` that does not. -/
theorem SystemStep.wired {tx : Tx} {sys sys' : System} (h : SystemStep w sys tx sys')
    (hkeeps : tx.KeepsWiring w) (hwired : Wired w sys.token) : Wired w sys'.token := by
  simp only [SystemStep, System.transact, bind_eq_ok, ensure_eq_ok, exists_const] at h
  obtain ⟨-, h⟩ := h
  split at h
  · simp only [bind_eq_ok] at h
    obtain ⟨bank, -, h⟩ := h
    exact (callPool_config h).trans hwired
  · rename_i msg hmsg
    simp only [bind_eq_ok] at h
    obtain ⟨bank, -, h⟩ := h
    refine callToken_wired h (fun minter poolAddress he => ?_) hwired
    rw [he] at hmsg
    exact hkeeps minter poolAddress hmsg

/-- From the creation on, and as long as no `UpdateConfig` points the token elsewhere, the
token has the pool for its minter, and its supply is the pool's scaled total and the sum of
the balances, of which the pool has none. -/
theorem created_system_in_lock_step {ts : List (Transition System Tx)} {sys' : System}
    (h : createSystem w deps env report info msg bank = .ok sys)
    (hhost : trim w.token = w.token) (run : Run (SystemStep w) sys ts sys')
    (hkeeps : ∀ t ∈ ts, t.label.KeepsWiring w) :
    sys'.token.config = ⟨w.pool, some w.pool⟩ ∧
      sys'.pool.contract.repoTokenCw20Address = some w.token ∧
      sys'.token.tokenInfo.totalSupply = sys'.pool.reserve.totalScaledLiquidity ∧
      sys'.token.tokenInfo.totalSupply.val =
        (sys'.token.balances.toList.map fun entry => entry.2.val).sum ∧
      sys'.token.balance w.pool = 0 := by
  obtain ⟨start, -, -⟩ := createSystem_start h hhost
  obtain ⟨hsys, hwired⟩ := run.invariant_of_transitions
    (I := fun s => InStep w 0 s ∧ Wired w s.token) (P := fun x => x.label.KeepsWiring w)
    (fun _ _ _ hs hkeeps hstep => ⟨hstep.inStep hs.2 hs.1, hstep.wired hkeeps hs.2⟩) hkeeps
    ⟨start.inStep, start.wired⟩
  exact ⟨hwired, hsys.bound, Uint.ext hsys.supply, hsys.ledger.supply,
    Uint.ext (hsys.holding.trans Uint.val_zero.symm)⟩

end

namespace Demo

/-- The demo pool, with a token of its own. -/
def newTokenMsg : InstantiateMsg :=
  { msg with repoToken := .new 7 " Prime Repo " "REPO" 6 }

/-- The exchanges, and an `UpdateConfig` in between that names the pool again. -/
def rewired : List Tx :=
  tx "owner" [] (.token (.updateConfig (some "pool") none)) :: exchanges

/-- The system is created, and the exchanges run on it. -/
def createdCheck : Bool :=
  match createSystem wiring (deps 10) (env 0) (fun _ => "") ⟨"owner", []⟩ newTokenMsg bank with
  | .ok sys =>
    match replayTxs wiring sys rewired with
    | .ok (_, sys') => exchangesCheck sys'
    | .error _ => false
  | .error _ => false

theorem exists_created : ∃ sys ts sys',
    createSystem wiring (deps 10) (env 0) (fun _ => "") ⟨"owner", []⟩ newTokenMsg bank = .ok sys ∧
      Run (SystemStep wiring) sys ts sys' ∧ (∀ t ∈ ts, t.label.KeepsWiring wiring) ∧
      exchangesCheck sys' = true := by
  have hcheck : createdCheck = true := by decide +kernel
  unfold createdCheck at hcheck
  split at hcheck
  · rename_i sys hcreate
    split at hcheck
    · rename_i ts sys' hreplay
      obtain ⟨run, htxs⟩ := replayTxs_run hreplay
      refine ⟨sys, ts, sys', hcreate, run, fun t ht minter poolAddress hmsg => ?_, hcheck⟩
      have hlabel : t.label ∈ rewired := htxs ▸ List.mem_map_of_mem ht
      simp only [rewired, exchanges, List.mem_cons, List.not_mem_nil, or_false] at hlabel
      rcases hlabel with he | he | he | he | he | he <;> rw [he] at hmsg <;> cases hmsg
      exact ⟨rfl, rfl⟩
    · cases hcheck
  · cases hcheck

end Demo

theorem created_system_in_lock_step_rewired :
    ∃ sys sys' : System, createSystem Demo.wiring (Demo.deps 10) (Demo.env 0) (fun _ => "")
        ⟨"owner", []⟩ Demo.newTokenMsg Demo.bank = .ok sys ∧
      (sys'.token.balance "lender").val = 700 ∧ (sys'.token.balance "carol").val = 30 ∧
      sys'.token.tokenInfo.totalSupply = sys'.pool.reserve.totalScaledLiquidity := by
  obtain ⟨sys, ts, sys', hcreate, run, hkeeps, hcheck⟩ := Demo.exists_created
  obtain ⟨hlender, hcarol⟩ := Demo.exchanges_check hcheck
  obtain ⟨-, -, hsupply, -, -⟩ := created_system_in_lock_step hcreate (by decide +kernel) run hkeeps
  exact ⟨sys, sys', hcreate, hlender, hcarol, hsupply⟩

end DemocratizedPrime
