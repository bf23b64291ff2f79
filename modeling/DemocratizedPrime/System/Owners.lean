import DemocratizedPrime.CosmWasm.Handover
import DemocratizedPrime.Oracle.Agreement
import DemocratizedPrime.System.Creation

/-!
# The owners of the three contracts

The pool, its token and the oracle each keep an ownership, and each writes it in one message
only (`pool_writtenByUpdate`, `token_writtenByUpdate`, `oracle_writtenByUpdate`).  So each of them
always has an owner, and no run of any messages changes it but by a handover
(`owners_change_by_handover`).
-/

namespace DemocratizedPrime

open Result Transitions

/-! ## The pool -/

/-- The ownership message of a call, if it is one. -/
def Event.asksOwnership (e : Event) : Option OwnershipCall :=
  match e.msg with
  | .updateOwnership action => some ⟨e.deps, e.env, e.info, action⟩
  | _ => none

theorem PoolStep.ownership_eq {s s' : PoolStorage} {e : Event} (h : PoolStep s e s')
    (hmsg : ∀ action, e.msg ≠ .updateOwnership action) : s'.ownership = s.ownership := by
  cases hneutral : e.msg.isNeutral with
  | false =>
    cases h.effect with
    | neutral msg =>
      rw [msg] at hneutral
      cases hneutral
    | _ => rfl
  | true =>
    have hd : dispatch e.deps s e.env e.info e.msg = .ok (s', e.response) := execute_eq_ok h
    cases hm : e.msg with
    | updateOwnership action => exact absurd hm (hmsg action)
    | receive cw20Msg =>
      rw [hm] at hd hneutral
      obtain ⟨holder, received, body⟩ := cw20Msg
      obtain ⟨-, payload, rfl, ⟨amount, exact, cf, hbody, -⟩ |
        ⟨recipient, amount, exact, -, htransfer⟩⟩ := receive_spec hd
      · cases hbody <;> cases hneutral
      · obtain ⟨token, sent, -, rfl, -⟩ := executeTransferCw20_spec htransfer
        rfl
    | adjustDirectedCollateralSale adjustments expiresAt version =>
      rw [hm] at hd
      obtain ⟨-, -, rfl | ⟨offer, rfl⟩⟩ := adjustDirectedCollateralSale_spec hd <;> rfl
    | setOperationalState state =>
      rw [hm] at hd
      obtain ⟨-, rfl, -⟩ := setOperationalState_spec hd
      rfl
    | setLenderRequiredAttrs attrs =>
      rw [hm] at hd
      obtain ⟨-, rfl, -⟩ := setLenderRequiredAttrs_spec hd
      rfl
    | setBorrowerRequiredAttrs attrs =>
      rw [hm] at hd
      obtain ⟨-, rfl, -⟩ := setBorrowerRequiredAttrs_spec hd
      rfl
    | setBorrowerRequireCommit address require =>
      rw [hm] at hd
      obtain ⟨-, -, rfl, -⟩ := setBorrowerRequireCommit_spec hd
      rfl
    | setLenderRequireCommitOnExit address require =>
      rw [hm] at hd
      obtain ⟨-, -, rfl, -⟩ := setLenderRequireCommitOnExit_spec hd
      rfl
    | _ =>
      rw [hm] at hneutral
      cases hneutral

theorem pool_writtenByUpdate :
    WrittenByUpdate PoolStorage.ownership Event.asksOwnership PoolStep := by
  intro s e s' h
  unfold Event.asksOwnership
  cases hm : e.msg with
  | updateOwnership action =>
    have hd : dispatch e.deps s e.env e.info e.msg = .ok (s', e.response) := execute_eq_ok h
    rw [hm] at hd
    simp only [dispatch, updateOwnership, bind_eq_ok, pure_eq_ok, Prod.mk.injEq] at hd
    obtain ⟨ownership, hupdate, rfl, -⟩ := hd
    exact hupdate
  | _ =>
    refine h.ownership_eq fun action hmsg => ?_
    rw [hm] at hmsg
    cases hmsg

theorem DeployedAt.ownership {t : Timestamp} {s : PoolStorage} (h : DeployedAt t s) :
    ∃ owner, s.ownership = Ownership.initializeOwner owner := by
  induction h with
  | instantiated _ h => exact ⟨_, (instantiate_request h).1⟩
  | replied _ h ih =>
    obtain ⟨addr, -, -, rfl⟩ := reply_spec h
    exact ih

/-! ## The token -/

namespace RepoToken

variable {deps : Deps} {t t' : TokenStorage} {env : Env} {info : MessageInfo}
  {res : TokenResponse}

/-- The ownership message that a call of the token is, if it is one. -/
def TokenCall.asksOwnership (c : TokenCall) : Option OwnershipCall :=
  match c.msg with
  | .updateOwnership action => some ⟨c.deps, c.env, c.info, action⟩
  | _ => none

theorem applyBurn_ownership {owner : Addr} {amount : Uint128} {m : String}
    (h : applyBurn t owner amount m = .ok t') : t'.ownership = t.ownership := by
  simp only [applyBurn, bind_eq_ok, pure_eq_ok] at h
  obtain ⟨mid, hmid, supply, -, rfl⟩ := h
  obtain ⟨-, -, hrest⟩ := deduct_spec hmid
  show mid.ownership = t.ownership
  rw [hrest]

theorem deduct_add_ownership {t'' : TokenStorage} {owner recipient : Addr} {amount : Uint128}
    {insufficient : Uint128 → String} (hout : t.deduct owner amount insufficient = .ok t')
    (hin : t'.add recipient amount = .ok t'') : t''.ownership = t.ownership := by
  obtain ⟨-, -, hrest⟩ := deduct_spec hout
  obtain ⟨-, -, hrest'⟩ := add_spec hin
  rw [hrest', hrest]

theorem execute_ownership {msg : ExecuteMsg} (h : execute deps t env info msg = .ok (t', res))
    (hmsg : ∀ action, msg ≠ .updateOwnership action) : t'.ownership = t.ownership := by
  cases msg with
  | updateOwnership action => exact absurd rfl (hmsg action)
  | mint recipient amount =>
    simp only [execute, executeMint, bind_eq_ok, pure_eq_ok, Prod.mk.injEq] at h
    obtain ⟨-, -, _, -, -, -, mid, hmid, supply, -, rfl, -⟩ := h
    obtain ⟨-, -, hrest⟩ := add_spec hmid
    show mid.ownership = t.ownership
    rw [hrest]
  | burn amount =>
    simp only [execute, executeBurn, bind_eq_ok, pure_eq_ok, Prod.mk.injEq] at h
    obtain ⟨-, -, -, -, mid, hburn, rfl, -⟩ := h
    exact applyBurn_ownership hburn
  | burnFrom owner amount =>
    simp only [execute, executeBurnFrom, bind_eq_ok, pure_eq_ok, Prod.mk.injEq] at h
    obtain ⟨-, -, -, -, _, -, mid, hburn, rfl, -⟩ := h
    exact applyBurn_ownership hburn
  | transfer recipient amount =>
    simp only [execute, executeTransfer, bind_eq_ok, pure_eq_ok, Prod.mk.injEq] at h
    obtain ⟨-, -, _, -, -, -, mid, hout, last, hin, rfl, -⟩ := h
    exact deduct_add_ownership hout hin
  | send contract amount body =>
    simp only [execute, executeSend, bind_eq_ok, pure_eq_ok, Prod.mk.injEq] at h
    obtain ⟨-, -, _, -, -, -, mid, hout, last, hin, rfl, -⟩ := h
    exact deduct_add_ownership hout hin
  | updateConfig minter poolAddress =>
    simp only [execute, executeUpdateConfig, bind_eq_ok, pure_eq_ok, Prod.mk.injEq] at h
    obtain ⟨-, -, _, -, _, -, rfl, -⟩ := h
    rfl

theorem token_writtenByUpdate :
    WrittenByUpdate TokenStorage.ownership TokenCall.asksOwnership TokenStep := by
  rintro t c t' ⟨res, h⟩
  unfold TokenCall.asksOwnership
  cases hm : c.msg with
  | updateOwnership action =>
    rw [hm] at h
    simp only [execute, updateOwnership, bind_eq_ok, pure_eq_ok, Prod.mk.injEq] at h
    obtain ⟨ownership, hupdate, rfl, -⟩ := h
    exact hupdate
  | _ =>
    rw [hm] at h
    exact execute_ownership h fun action => ExecuteMsg.noConfusion

end RepoToken

/-! ## The oracle -/

namespace PriceOracle

/-- The ownership message that a call of the oracle is, if it is one. -/
def OracleCall.asksOwnership (c : OracleCall) : Option OwnershipCall :=
  match c.msg with
  | .updateOwnership action => some ⟨c.deps, c.env, c.info, action⟩
  | _ => none

theorem oracle_writtenByUpdate :
    WrittenByUpdate OracleStorage.ownership OracleCall.asksOwnership OracleStep := by
  intro s c s' h
  unfold OracleCall.asksOwnership
  cases hm : c.msg with
  | updateOwnership action =>
    obtain ⟨res, h⟩ := h
    rw [hm] at h
    simp only [execute, updateOwnership, bind_eq_ok, pure_eq_ok, Prod.mk.injEq] at h
    obtain ⟨-, -, ownership, hupdate, rfl, -⟩ := h
    exact hupdate
  | updateAssetPrices updates =>
    have heffect := h.effect
    rw [hm] at heffect
    cases heffect
    rfl
  | updateAssetMappings toUpdate toRemove =>
    have heffect := h.effect
    rw [hm] at heffect
    cases heffect
    rfl

end PriceOracle

/-! ## All three -/

open RepoToken PriceOracle in
/-- From the creation of a contract on, whoever calls it with what, it has an owner, and the
owner changes only when an account accepts, before it expires, the last offer of the owner
of that time.  No message to the ownership has succeeded in between. -/
theorem owners_change_by_handover :
    (∀ time s₀ ts s, DeployedAt time s₀ → Run PoolStep s₀ ts s →
      SafelyOwned PoolStorage.ownership Event.asksOwnership s₀ ts) ∧
    (∀ deps msg t₀ res ts t, RepoToken.instantiate deps msg = .ok (t₀, res) →
      Run TokenStep t₀ ts t → SafelyOwned TokenStorage.ownership TokenCall.asksOwnership t₀ ts) ∧
    ∀ deps owner o₀ res ts o, PriceOracle.instantiate deps owner = .ok (o₀, res) →
      Run OracleStep o₀ ts o →
        SafelyOwned OracleStorage.ownership OracleCall.asksOwnership o₀ ts := by
  refine ⟨fun time s₀ ts s hdeployed run => ?_, fun deps msg t₀ res ts t h run => ?_,
    fun deps owner o₀ res ts o h run => ?_⟩
  · obtain ⟨owner, howner⟩ := hdeployed.ownership
    exact pool_writtenByUpdate.safelyOwned run howner
  · unfold RepoToken.instantiate at h
    split at h
    · cases h
    · simp only [bind_eq_ok, pure_eq_ok, Prod.mk.injEq] at h
      obtain ⟨owner, -, minter, -, pool, -, rfl, -⟩ := h
      exact token_writtenByUpdate.safelyOwned run rfl
  · simp only [PriceOracle.instantiate, bind_eq_ok, pure_eq_ok, Prod.mk.injEq] at h
    obtain ⟨_, -, rfl, -⟩ := h
    exact oracle_writtenByUpdate.safelyOwned run rfl

namespace Demo

/-- The owner offers the pool, thinks better of it, and the second heir accepts. -/
def handover : List Call :=
  [call "owner" [] (.updateOwnership (.transferOwnership "first" none)),
    call "owner" [] (.updateOwnership (.transferOwnership "heir" (some (.atHeight 5)))),
    call "lender" [⟨"usd", 1000⟩] .lend,
    call "heir" [] (.updateOwnership .acceptOwnership)]

theorem handover_ok :
    replayCheck (deps 10) (env 0) ⟨"owner", []⟩ msg handover
      (fun s => decide (s.ownership.owner = some "heir")) = true := by
  decide +kernel

end Demo

theorem owners_change_by_handover_demo :
    ∃ s₀ ts s, Run PoolStep s₀ ts s ∧ ts.map (fun t => t.label.toCall) = Demo.handover ∧
      s.ownership.owner = some "heir" ∧
      SafelyOwned PoolStorage.ownership Event.asksOwnership s₀ ts := by
  obtain ⟨s₀, ts, s, hdeployed, run, hcalls, hcheck⟩ := exists_run Demo.handover_ok
  exact ⟨s₀, ts, s, run, hcalls, of_decide_eq_true hcheck,
    owners_change_by_handover.1 _ _ _ _ hdeployed run⟩

end DemocratizedPrime
