import DemocratizedPrime.Pool.Steps

/-!
# The records of an account

Beside its debt and its holdings an account has a directed-sale offer, the version of
that offer, and the two rules that make its payouts go to the commit market.

`RecordChange s e s'` lists how a step can write them, and `PoolStep.records` says that
the list is complete.  All the other messages leave every record alone.

`SettingChange s e s'` does the same for the settings that a neutral message writes.
-/

namespace DemocratizedPrime

open Result Transitions

variable {s s' : PoolStorage} {e : Event}

/-- No record is written. -/
structure SameRecords (s s' : PoolStorage) : Prop where
  offers : s'.directedSaleOffer = s.directedSaleOffer
  versions : s'.directedSaleVersion = s.directedSaleVersion
  borrowerRules : s'.borrowerRequireCommit = s.borrowerRequireCommit
  lenderRules : s'.lenderRequireCommitOnExit = s.lenderRequireCommitOnExit

/-- The messages that may write a record. -/
def ExecuteMsg.writesRecords : ExecuteMsg → Bool
  | .adjustDirectedCollateralSale .. | .liquidate .. | .setBorrowerRequireCommit ..
  | .setLenderRequireCommitOnExit .. => true
  | _ => false

/-- What a message does to the records of the accounts: an offer, a version or a commit rule. -/
inductive RecordChange (s : PoolStorage) (e : Event) (s' : PoolStorage) : Prop
  | none (msg : e.msg.writesRecords = false) (same : SameRecords s s')
  | adjust {adjustments : Std.ExtTreeMap String Int128} {expiresAt : Timestamp}
      {version : Uint64} (msg : e.msg = .adjustDirectedCollateralSale adjustments expiresAt version)
      (adjusted : adjustDirectedCollateralSale s e.env e.info adjustments expiresAt version =
        .ok (s', e.response))
  | liquidate {borrower : String} {seize : Amounts} {t : LiquidationTarget}
      (msg : e.msg = .liquidate borrower seize)
      (target : t.Valid e.deps s e.env e.info borrower seize)
      (shrunk : SameRecords (shrinkOffer s t seize) s')
  | borrowerRule {address : String} {require : Option Bool}
      (msg : e.msg = .setBorrowerRequireCommit address require)
      (market : require = some true → s.contract.commitMarketId.isSome = true)
      (set : s' = s.setBorrowerRequireCommit (trim address) (require.getD false))
  | lenderRule {address : String} {require : Option Bool}
      (msg : e.msg = .setLenderRequireCommitOnExit address require)
      (market : require = some true → s.contract.commitMarketId.isSome = true)
      (set : s' = s.setLenderRequireCommitOnExit (trim address) (require.getD false))

/-- A settlement shrinks the stored offer, whatever else it writes before. -/
theorem shrinkOffer_sameRecords (h : SameRecords s s') (t : LiquidationTarget)
    (seize : Amounts) : SameRecords (shrinkOffer s t seize) (shrinkOffer s' t seize) := by
  obtain ⟨hoffers, hversions, hborrowers, hlenders⟩ := h
  unfold shrinkOffer
  split
  · split
    · exact ⟨hoffers, hversions, hborrowers, hlenders⟩
    · dsimp only
      split
      · refine ⟨?_, hversions, hborrowers, hlenders⟩
        show s'.directedSaleOffer.erase _ = s.directedSaleOffer.erase _
        rw [hoffers]
      · refine ⟨?_, hversions, hborrowers, hlenders⟩
        show s'.directedSaleOffer.insert _ _ = s.directedSaleOffer.insert _ _
        rw [hoffers]
  · exact ⟨hoffers, hversions, hborrowers, hlenders⟩

/-- A neutral message writes the records of at most one account. -/
theorem neutral_records (hmsg : e.msg.isNeutral = true)
    (hd : dispatch e.deps s e.env e.info e.msg = .ok (s', e.response)) : RecordChange s e s' := by
  cases hm : e.msg with
  | updateOwnership action =>
    rw [hm] at hd
    obtain ⟨_, rfl, -, -⟩ := updateOwnership_spec hd
    exact .none (hm ▸ rfl) ⟨rfl, rfl, rfl, rfl⟩
  | adjustDirectedCollateralSale adjustments expiresAt version =>
    rw [hm] at hd
    exact .adjust hm hd
  | setOperationalState state =>
    rw [hm] at hd
    obtain ⟨-, rfl, -⟩ := setOperationalState_spec hd
    exact .none (hm ▸ rfl) ⟨rfl, rfl, rfl, rfl⟩
  | setLenderRequiredAttrs attrs =>
    rw [hm] at hd
    obtain ⟨-, rfl, -⟩ := setLenderRequiredAttrs_spec hd
    exact .none (hm ▸ rfl) ⟨rfl, rfl, rfl, rfl⟩
  | setBorrowerRequiredAttrs attrs =>
    rw [hm] at hd
    obtain ⟨-, rfl, -⟩ := setBorrowerRequiredAttrs_spec hd
    exact .none (hm ▸ rfl) ⟨rfl, rfl, rfl, rfl⟩
  | setBorrowerRequireCommit address require =>
    rw [hm] at hd
    obtain ⟨-, hmarket, hs', -⟩ := setBorrowerRequireCommit_spec hd
    exact .borrowerRule hm hmarket hs'
  | setLenderRequireCommitOnExit address require =>
    rw [hm] at hd
    obtain ⟨-, hmarket, hs', -⟩ := setLenderRequireCommitOnExit_spec hd
    exact .lenderRule hm hmarket hs'
  | receive cw20Msg =>
    rw [hm] at hd hmsg
    obtain ⟨holder, received, body⟩ := cw20Msg
    obtain ⟨-, payload, rfl, ⟨amount, exact, cf, hbody, -⟩ |
      ⟨recipient, amount, exact, -, htransfer⟩⟩ := receive_spec hd
    · cases hbody <;> cases hmsg
    · obtain ⟨_, _, -, rfl, -⟩ := executeTransferCw20_spec htransfer
      exact .none (hm ▸ rfl) ⟨rfl, rfl, rfl, rfl⟩
  | _ =>
    rw [hm] at hmsg
    cases hmsg

theorem ExecuteMsg.isWithdrawal_writesRecords {m : ExecuteMsg} (h : m.isWithdrawal = true) :
    m.writesRecords = false := by
  cases m with
  | receive cw20Msg => rfl
  | withdraw lender amount commitFunds => rfl
  | _ => cases h

/-- A liquidation finds its target, and leaves the offer that the settlement leaves. -/
theorem PoolStep.liquidate_records {borrower : String} {seize : Amounts} (h : PoolStep s e s')
    (hmsg : e.msg = .liquidate borrower seize) :
    ∃ t : LiquidationTarget, t.Valid e.deps s e.env e.info borrower seize ∧
      SameRecords (shrinkOffer s t seize) s' := by
  have hd : dispatch e.deps s e.env e.info e.msg = .ok (s', e.response) := execute_eq_ok h
  rw [hmsg] at hd
  obtain ⟨t, p, r', outgoing, totals, target, -, -, -, -, hs', -⟩ := liquidate_spec hd
  refine ⟨t, target, ?_⟩
  rw [hs']
  apply shrinkOffer_sameRecords
  exact ⟨rfl, rfl, rfl, rfl⟩

/-- Every step is one of the changes. -/
theorem PoolStep.records (h : PoolStep s e s') : RecordChange s e s' := by
  have hd : dispatch e.deps s e.env e.info e.msg = .ok (s', e.response) := execute_eq_ok h
  cases h.effect with
  | neutral msg sends change => exact neutral_records msg hd
  | liquidate msg =>
    obtain ⟨t, target, shrunk⟩ := h.liquidate_records msg
    exact .liquidate msg target shrunk
  | burn msg => exact .none (ExecuteMsg.isWithdrawal_writesRecords msg) ⟨rfl, rfl, rfl, rfl⟩
  | updateSupportedCollateral msg => exact .none (msg ▸ rfl) ⟨rfl, rfl, rfl, rfl⟩
  | updateContractConfig msg => exact .none (msg ▸ rfl) ⟨rfl, rfl, rfl, rfl⟩
  | updateRateParams msg => exact .none (msg ▸ rfl) ⟨rfl, rfl, rfl, rfl⟩
  | lend msg => exact .none (msg ▸ rfl) ⟨rfl, rfl, rfl, rfl⟩
  | borrow msg => exact .none (msg ▸ rfl) ⟨rfl, rfl, rfl, rfl⟩
  | repay msg => exact .none (msg ▸ rfl) ⟨rfl, rfl, rfl, rfl⟩
  | addCollateral msg => exact .none (msg ▸ rfl) ⟨rfl, rfl, rfl, rfl⟩
  | removeCollateral msg => exact .none (msg ▸ rfl) ⟨rfl, rfl, rfl, rfl⟩
  | eliminateFromReserve msg => exact .none (msg ▸ rfl) ⟨rfl, rfl, rfl, rfl⟩
  | eliminateFromBank msg => exact .none (msg ▸ rfl) ⟨rfl, rfl, rfl, rfl⟩
  | socializeDeficit msg => exact .none (msg ▸ rfl) ⟨rfl, rfl, rfl, rfl⟩
  | withdrawReserve msg => exact .none (msg ▸ rfl) ⟨rfl, rfl, rfl, rfl⟩

/-! ## Settings -/

/-- What a neutral message writes into the configuration: the operational state, one of the
two lists of attributes, or nothing. -/
inductive SettingChange (s : PoolStorage) (e : Event) (s' : PoolStorage) : Prop
  | state {state : OperationalState} (msg : e.msg = .setOperationalState state)
      (set : s'.contract = { s.contract with operationalState := state })
  | lenderAttrs {attrs : List String} (msg : e.msg = .setLenderRequiredAttrs attrs)
      (set : s'.contract = { s.contract with lenderRequiredAttrs := attrs })
  | borrowerAttrs {attrs : List String} (msg : e.msg = .setBorrowerRequiredAttrs attrs)
      (set : s'.contract = { s.contract with borrowerRequiredAttrs := attrs })
  | none (same : s'.contract = s.contract)

theorem neutral_settings (hmsg : e.msg.isNeutral = true)
    (hd : dispatch e.deps s e.env e.info e.msg = .ok (s', e.response)) : SettingChange s e s' := by
  cases hm : e.msg with
  | setOperationalState state =>
    rw [hm] at hd
    obtain ⟨-, rfl, -⟩ := setOperationalState_spec hd
    exact .state hm rfl
  | setLenderRequiredAttrs attrs =>
    rw [hm] at hd
    obtain ⟨-, rfl, -⟩ := setLenderRequiredAttrs_spec hd
    exact .lenderAttrs hm rfl
  | setBorrowerRequiredAttrs attrs =>
    rw [hm] at hd
    obtain ⟨-, rfl, -⟩ := setBorrowerRequiredAttrs_spec hd
    exact .borrowerAttrs hm rfl
  | setBorrowerRequireCommit address require =>
    rw [hm] at hd
    obtain ⟨-, -, rfl, -⟩ := setBorrowerRequireCommit_spec hd
    exact .none rfl
  | setLenderRequireCommitOnExit address require =>
    rw [hm] at hd
    obtain ⟨-, -, rfl, -⟩ := setLenderRequireCommitOnExit_spec hd
    exact .none rfl
  | updateOwnership action =>
    rw [hm] at hd
    obtain ⟨_, rfl, -⟩ := updateOwnership_spec hd
    exact .none rfl
  | adjustDirectedCollateralSale adjustments expiresAt version =>
    rw [hm] at hd
    obtain ⟨-, -, rfl | ⟨offer, rfl⟩⟩ := adjustDirectedCollateralSale_spec hd
    · exact .none rfl
    · exact .none rfl
  | receive cw20Msg =>
    rw [hm] at hd hmsg
    obtain ⟨holder, received, body⟩ := cw20Msg
    obtain ⟨-, payload, rfl, ⟨_, _, _, hbody, -⟩ | ⟨_, _, _, -, htransfer⟩⟩ := receive_spec hd
    · cases hbody <;> cases hmsg
    · obtain ⟨_, _, -, rfl, -⟩ := executeTransferCw20_spec htransfer
      exact .none rfl
  | _ =>
    rw [hm] at hmsg
    cases hmsg

/-- One message sets the operational state. -/
theorem PoolStep.operationalState_eq (h : PoolStep s e s')
    (hmsg : ∀ state, e.msg ≠ .setOperationalState state) :
    s'.contract.operationalState = s.contract.operationalState := by
  have hd : dispatch e.deps s e.env e.info e.msg = .ok (s', e.response) := execute_eq_ok h
  cases h.effect with
  | neutral msg =>
    cases neutral_settings msg hd with
    | state msg' => exact absurd msg' (hmsg _)
    | lenderAttrs _ set => rw [set]
    | borrowerAttrs _ set => rw [set]
    | none same => rw [same]
  | updateSupportedCollateral _ _ _ contract =>
    rw [PoolStorage.setContractStateV1_contract, contract]
  | updateContractConfig _ _ _ applied =>
    rw [PoolStorage.setContractStateV1_contract, (applyConfigParams_spec applied).1]
  | _ => rfl

/-! ## New pools -/

/-- No account has a record. -/
structure NoRecords (s : PoolStorage) : Prop where
  offers : s.directedSaleOffer = ∅
  versions : s.directedSaleVersion = ∅
  borrowerRules : s.borrowerRequireCommit = ∅
  lenderRules : s.lenderRequireCommitOnExit = ∅

theorem instantiate_noRecords {deps : Deps} {env : Env} {info : MessageInfo}
    {msg : InstantiateMsg} {res : Response} (h : instantiate deps env info msg = .ok (s, res)) :
    NoRecords s := by
  simp only [instantiate, bind_eq_ok, Prod.exists, ensure_eq_ok, exists_const, pure_eq_ok,
    Prod.mk.injEq] at h
  obtain ⟨-, -, _, -, _, -, _, _, -, -, -, _, -, -, -, -, -, _, -, -, -, _, -, _, -, -, -, -, -, -,
    -, -, -, _, -, _, -, rfl, -⟩ := h
  exact ⟨rfl, rfl, rfl, rfl⟩

theorem DeployedAt.noRecords {t : Timestamp} (h : DeployedAt t s) : NoRecords s := by
  induction h with
  | instantiated _ hinst => exact instantiate_noRecords hinst
  | replied _ hreply ih =>
    obtain ⟨addr, -, -, rfl⟩ := reply_spec hreply
    exact ⟨ih.offers, ih.versions, ih.borrowerRules, ih.lenderRules⟩

end DemocratizedPrime
