import DemocratizedPrime.RepoToken.Token
import DemocratizedPrime.Lib.Run

/-!
# The repo token's ledger

`TokenLedger` is the invariant of the token: the total supply is what all balances add
up to, and no balance is stored as zero.  It holds under any configuration, whoever
calls, since each message changes the balances and the supply together.

Each message has one specification lemma, in terms of `ShareLedger`.
-/

namespace DemocratizedPrime.RepoToken

open Result ShareLedger Transitions

variable {deps : Deps} {t t' : TokenStorage} {info : MessageInfo} {res : TokenResponse}

/-- The supply is the sum of the balances, and no balance is stored as zero. -/
structure TokenLedger (t : TokenStorage) : Prop where
  supply : t.tokenInfo.totalSupply.val = outstanding t.balances
  noZero : NoZero t.balances

theorem TokenLedger.balance_le_supply (h : TokenLedger t) (account : Addr) :
    (t.balance account).val ≤ t.tokenInfo.totalSupply.val := by
  rw [h.supply]
  exact owned_le_outstanding _ _

/-! ## Balances -/

theorem deduct_spec {account : Addr} {amount : Uint128} {insufficient : Uint128 → String}
    (h : t.deduct account amount insufficient = .ok t') :
    Credited t'.balances account amount.val t.balances ∧
      (NoZero t.balances → NoZero t'.balances) ∧ t' = { t with balances := t'.balances } := by
  simp only [TokenStorage.deduct, bind_eq_ok, ensure_eq_ok, exists_const, okOr_eq_ok,
    Uint.checkedSub_eq_some, pure_eq_ok] at h
  obtain ⟨-, updated, hupdated, rfl⟩ := h
  exact ⟨.of_put hupdated, fun hz => hz.putUnless _ _, rfl⟩

theorem add_spec {account : Addr} {amount : Uint128} (h : t.add account amount = .ok t') :
    Credited t.balances account amount.val t'.balances ∧
      (amount.val ≠ 0 → NoZero t.balances → NoZero t'.balances) ∧
        t' = { t with balances := t'.balances } := by
  simp only [TokenStorage.add, bind_eq_ok, okOr_eq_ok, Uint.checkedAdd_eq_some, pure_eq_ok] at h
  obtain ⟨updated, hupdated, rfl⟩ := h
  refine ⟨.insert hupdated, fun hamount hz => hz.insert ?_, rfl⟩
  rw [hupdated]
  omega

/-! ## The three ways to change balances -/

/-- `account` got `n` new tokens. -/
structure Minted (t : TokenStorage) (account : Addr) (n : Nat) (t' : TokenStorage) : Prop where
  balances : Credited t.balances account n t'.balances
  supply : t'.tokenInfo.totalSupply.val = t.tokenInfo.totalSupply.val + n
  noZero : NoZero t.balances → NoZero t'.balances
  config : t'.config = t.config

/-- `n` tokens of `account` are gone. -/
structure Burned (t : TokenStorage) (account : Addr) (n : Nat) (t' : TokenStorage) : Prop where
  balances : Credited t'.balances account n t.balances
  supply : t'.tokenInfo.totalSupply.val + n = t.tokenInfo.totalSupply.val
  noZero : NoZero t.balances → NoZero t'.balances
  config : t'.config = t.config

/-- `owner` passed `n` tokens on to `recipient`. -/
structure Transferred (t : TokenStorage) (owner recipient : Addr) (n : Nat)
    (t' : TokenStorage) : Prop where
  balances : Moved t.balances owner recipient n t'.balances
  supply : t'.tokenInfo = t.tokenInfo
  noZero : NoZero t.balances → NoZero t'.balances
  config : t'.config = t.config

theorem Minted.ledger {account : Addr} {n : Nat} (h : Minted t account n t')
    (ht : TokenLedger t) : TokenLedger t' := by
  refine ⟨?_, h.noZero ht.noZero⟩
  rw [h.supply, h.balances.outstanding, ht.supply]

theorem Burned.ledger {account : Addr} {n : Nat} (h : Burned t account n t')
    (ht : TokenLedger t) : TokenLedger t' := by
  refine ⟨?_, h.noZero ht.noZero⟩
  have hsupply := h.supply
  have hsum := h.balances.outstanding
  rw [ht.supply] at hsupply
  omega

theorem Transferred.ledger {owner recipient : Addr} {n : Nat}
    (h : Transferred t owner recipient n t') (ht : TokenLedger t) : TokenLedger t' := by
  refine ⟨?_, h.noZero ht.noZero⟩
  rw [h.supply, h.balances.outstanding, ht.supply]

/-- The two halves of a transfer. -/
theorem Transferred.of_halves {t'' : TokenStorage} {owner recipient : Addr} {amount : Uint128}
    {insufficient : Uint128 → String} (hamount : amount.val ≠ 0)
    (hout : t.deduct owner amount insufficient = .ok t')
    (hin : t'.add recipient amount = .ok t'') : Transferred t owner recipient amount.val t'' := by
  obtain ⟨hdebit, hz, hrest⟩ := deduct_spec hout
  obtain ⟨hcredit, hz', hrest'⟩ := add_spec hin
  refine ⟨hdebit.moved hcredit, ?_, fun h => hz' hamount (hz h), ?_⟩
  · rw [hrest', hrest]
  · rw [hrest', hrest]

theorem applyBurn_spec {owner : Addr} {amount : Uint128} {m : String}
    (h : applyBurn t owner amount m = .ok t') : Burned t owner amount.val t' := by
  simp only [applyBurn, bind_eq_ok, okOr_eq_ok, Uint.checkedSub_eq_some, pure_eq_ok] at h
  obtain ⟨mid, hmid, supply, hsupply, rfl⟩ := h
  obtain ⟨hdebit, hz, hrest⟩ := deduct_spec hmid
  have hinfo : mid.tokenInfo = t.tokenInfo := by rw [hrest]
  have hconfig : mid.config = t.config := by rw [hrest]
  rw [hinfo] at hsupply
  exact ⟨hdebit, hsupply, hz, hconfig⟩

/-! ## What a message can do -/

/-- The changes of a successful message, and what it checked first. -/
inductive TokenEffect (t : TokenStorage) (info : MessageInfo) :
    ExecuteMsg → TokenStorage → TokenResponse → Prop
  | updateOwnership {action : OwnershipAction} {ownership : Ownership} {res : TokenResponse}
      (quiet : res.receive = none) :
      TokenEffect t info (.updateOwnership action) { t with ownership } res
  | mint {recipient : Addr} {amount : Uint128} {t' : TokenStorage} {res : TokenResponse}
      (minter : info.sender = t.config.minter) (nonzero : amount.val ≠ 0)
      (change : Minted t recipient amount.val t') (quiet : res.receive = none) :
      TokenEffect t info (.mint recipient amount) t' res
  | burn {amount : Uint128} {t' : TokenStorage} {res : TokenResponse}
      (minter : info.sender = t.config.minter) (nonzero : amount.val ≠ 0)
      (change : Burned t info.sender amount.val t') (quiet : res.receive = none) :
      TokenEffect t info (.burn amount) t' res
  | burnFrom {owner : Addr} {amount : Uint128} {t' : TokenStorage} {res : TokenResponse}
      (minter : info.sender = t.config.minter) (nonzero : amount.val ≠ 0)
      (change : Burned t owner amount.val t') (quiet : res.receive = none) :
      TokenEffect t info (.burnFrom owner amount) t' res
  | transfer {recipient : Addr} {amount : Uint128} {t' : TokenStorage} {res : TokenResponse}
      (pool : t.config.poolAddress = some info.sender) (nonzero : amount.val ≠ 0)
      (elsewhere : recipient ≠ info.sender)
      (change : Transferred t info.sender recipient amount.val t') (quiet : res.receive = none) :
      TokenEffect t info (.transfer recipient amount) t' res
  | send {contract : Addr} {amount : Uint128} {msg : Except String Cw20ReceivePayload}
      {t' : TokenStorage} {res : TokenResponse} (pool : t.config.poolAddress = some contract)
      (nonzero : amount.val ≠ 0) (change : Transferred t info.sender contract amount.val t')
      (call : res.receive = some (contract, ⟨info.sender, amount, msg⟩)) :
      TokenEffect t info (.send contract amount msg) t' res
  | updateConfig {minter poolAddress : Option String} {config : Config} {res : TokenResponse}
      (owner : t.ownership.owner = some info.sender) (quiet : res.receive = none) :
      TokenEffect t info (.updateConfig minter poolAddress) { t with config } res

theorem executeMint_effect {recipient : String} {amount : Uint128}
    (h : executeMint deps t info recipient amount = .ok (t', res)) :
    TokenEffect t info (.mint recipient amount) t' res := by
  simp only [executeMint, onlyMinter, bind_eq_ok, ensure_eq_ok, exists_const, addrValidate_eq_ok,
    okOr_eq_ok, Uint.checkedAdd_eq_some, pure_eq_ok, Prod.mk.injEq] at h
  obtain ⟨hminter, _, ⟨-, rfl⟩, hne, mid, hmid, supply, hsupply, rfl, rfl⟩ := h
  obtain ⟨hcredit, hz, hrest⟩ := add_spec hmid
  have hinfo : mid.tokenInfo = t.tokenInfo := by rw [hrest]
  have hconfig : mid.config = t.config := by rw [hrest]
  rw [hinfo] at hsupply
  exact .mint hminter hne ⟨hcredit, hsupply, hz hne, hconfig⟩ rfl

theorem executeTransfer_effect {recipient : String} {amount : Uint128}
    (h : executeTransfer deps t info recipient amount = .ok (t', res)) :
    TokenEffect t info (.transfer recipient amount) t' res := by
  simp only [executeTransfer, ensureTransferAllowed, bind_eq_ok, ensure_eq_ok, exists_const,
    addrValidate_eq_ok, okOr_eq_ok, pure_eq_ok, Prod.mk.injEq] at h
  obtain ⟨hne, _, ⟨-, rfl⟩, ⟨pool, hpool, rfl, helsewhere⟩, mid, hout, last, hin, rfl, rfl⟩ := h
  exact .transfer hpool hne helsewhere (.of_halves hne hout hin) rfl

theorem executeSend_effect {contract : String} {amount : Uint128}
    {msg : Except String Cw20ReceivePayload}
    (h : executeSend deps t info contract amount msg = .ok (t', res)) :
    TokenEffect t info (.send contract amount msg) t' res := by
  simp only [executeSend, ensureSendAllowed, bind_eq_ok, ensure_eq_ok, exists_const,
    addrValidate_eq_ok, okOr_eq_ok, pure_eq_ok, Prod.mk.injEq] at h
  obtain ⟨hne, _, ⟨-, rfl⟩, ⟨pool, hpool, rfl⟩, mid, hout, last, hin, rfl, rfl⟩ := h
  exact .send hpool hne (.of_halves hne hout hin) rfl

/-- Every message is one of the effects. -/
theorem execute_effect {env : Env} {msg : ExecuteMsg}
    (h : execute deps t env info msg = .ok (t', res)) : TokenEffect t info msg t' res := by
  cases msg with
  | updateOwnership action =>
    simp only [execute, updateOwnership, bind_eq_ok, pure_eq_ok, Prod.mk.injEq] at h
    obtain ⟨ownership, -, rfl, rfl⟩ := h
    exact .updateOwnership rfl
  | mint recipient amount => exact executeMint_effect h
  | burn amount =>
    simp only [execute, executeBurn, onlyMinter, bind_eq_ok, ensure_eq_ok, exists_const,
      pure_eq_ok, Prod.mk.injEq] at h
    obtain ⟨hminter, hne, mid, hburn, rfl, rfl⟩ := h
    exact .burn hminter hne (applyBurn_spec hburn) rfl
  | burnFrom owner amount =>
    simp only [execute, executeBurnFrom, onlyMinter, bind_eq_ok, ensure_eq_ok, exists_const,
      addrValidate_eq_ok, pure_eq_ok, Prod.mk.injEq] at h
    obtain ⟨hminter, hne, _, ⟨-, rfl⟩, mid, hburn, rfl, rfl⟩ := h
    exact .burnFrom hminter hne (applyBurn_spec hburn) rfl
  | transfer recipient amount => exact executeTransfer_effect h
  | send contract amount msg => exact executeSend_effect h
  | updateConfig minter poolAddress =>
    simp only [execute, executeUpdateConfig, Ownership.assertOwner, bind_eq_ok, ensure_eq_ok,
      exists_const, pure_eq_ok, Prod.mk.injEq] at h
    obtain ⟨howner, _, -, _, -, rfl, rfl⟩ := h
    exact .updateConfig howner rfl

/-- Only a `Send` calls another contract, after the transfer. -/
theorem TokenEffect.call {msg : ExecuteMsg} {contract : String} {cw20Msg : Cw20ReceiveMsg}
    (h : TokenEffect t info msg t' res) (hcall : res.receive = some (contract, cw20Msg)) :
    t.config.poolAddress = some contract ∧
      Transferred t info.sender contract cw20Msg.amount.val t' := by
  cases h with
  | updateOwnership quiet =>
    rw [quiet] at hcall
    cases hcall
  | mint _ _ _ quiet =>
    rw [quiet] at hcall
    cases hcall
  | burn _ _ _ quiet =>
    rw [quiet] at hcall
    cases hcall
  | burnFrom _ _ _ quiet =>
    rw [quiet] at hcall
    cases hcall
  | transfer _ _ _ _ quiet =>
    rw [quiet] at hcall
    cases hcall
  | send pool nonzero change call =>
    rw [call] at hcall
    cases hcall
    exact ⟨pool, change⟩
  | updateConfig _ quiet =>
    rw [quiet] at hcall
    cases hcall

/-- Every message keeps the ledger. -/
theorem TokenEffect.ledger {msg : ExecuteMsg} (h : TokenEffect t info msg t' res)
    (ht : TokenLedger t) : TokenLedger t' := by
  cases h with
  | updateOwnership quiet => exact ⟨ht.supply, ht.noZero⟩
  | mint minter nonzero change quiet => exact change.ledger ht
  | burn minter nonzero change quiet => exact change.ledger ht
  | burnFrom minter nonzero change quiet => exact change.ledger ht
  | transfer pool nonzero elsewhere change quiet => exact change.ledger ht
  | send pool nonzero change call => exact change.ledger ht
  | updateConfig owner quiet => exact ⟨ht.supply, ht.noZero⟩

/-! ## Runs of the token -/

/-- A call of the token, with all that it reads besides the storage. -/
structure TokenCall where
  deps : Deps
  env : Env
  info : MessageInfo
  msg : ExecuteMsg

/-- A message to the token that succeeds. -/
def TokenStep (t : TokenStorage) (c : TokenCall) (t' : TokenStorage) : Prop :=
  ∃ res, execute c.deps t c.env c.info c.msg = .ok (t', res)

/-- A storage that some run of messages leads to from a new token. -/
def TokenReachable (t : TokenStorage) : Prop :=
  ∃ deps msg t₀ res ts, instantiate deps msg = .ok (t₀, res) ∧ Run TokenStep t₀ ts t

theorem instantiate_ledger {msg : InstantiateMsg} (h : instantiate deps msg = .ok (t, res)) :
    TokenLedger t := by
  unfold instantiate at h
  split at h
  · cases h
  · simp only [bind_eq_ok, pure_eq_ok, Prod.mk.injEq] at h
    obtain ⟨owner, -, minter, -, pool, -, rfl, -⟩ := h
    exact ⟨outstanding_empty.symm, noZero_empty⟩

theorem TokenReachable.ledger (h : TokenReachable t) : TokenLedger t := by
  obtain ⟨deps, msg, t₀, res, ts, hinst, run⟩ := h
  have hstep : ∀ t c t', TokenLedger t → TokenStep t c t' → TokenLedger t' := by
    rintro t c t' ht ⟨res, hexecute⟩
    exact (execute_effect hexecute).ledger ht
  exact run.invariant hstep (instantiate_ledger hinst)

end DemocratizedPrime.RepoToken
