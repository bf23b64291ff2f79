import DemocratizedPrime.Common.Lifetime
import DemocratizedPrime.Pool.Migrate
import DemocratizedPrime.Pool.Records
import DemocratizedPrime.Pool.Replay
import DemocratizedPrime.Pool.Invariants.CollateralLedger
import DemocratizedPrime.Pool.Invariants.ConfigSafety
import DemocratizedPrime.Pool.Invariants.DebtLedger

/-!
# The lifetime of a pool

A pool lives through releases of its code.  A migration fills in what older code did not
have, and may change the two roles, but it cannot do more than the custodian could have
done with a message (`Reachable.step_withRoles`).  So a pool that lives through releases is
still a reachable one, and all that is proved of these holds of it
(`upgrades_are_custodian_messages`).

A pool that older code left behind, with sound books, keeps sound books
(`migrated_pool_keeps_books`).
-/

namespace DemocratizedPrime

open Result Transitions

variable {s s' : PoolStorage} {e : Event}

/-! ## The configuration is complete -/

/-- Nothing of the configuration has to be filled in by a migration. -/
structure UpToDate (s : PoolStorage) : Prop where
  custodian : s.contract.custodian.isSome = true
  liquidator : s.contract.liquidator.isSome = true
  year : s.contract.rateParams.secondsPerYear = secondsPerYear

theorem RateParamsV1.validate_year {p : RateParamsV1} (h : p.validate = .ok ()) :
    p.secondsPerYear = DemocratizedPrime.secondsPerYear := by
  simp only [RateParamsV1.validate, bind_eq_ok, ensure_eq_ok, exists_const] at h
  obtain ⟨-, -, -, -, -, -, -, -, hyear⟩ := h
  exact hyear

/-- A role that is filled stays filled. -/
theorem newValue_role_isSome {deps : Deps} {update : Option String} {old new : Option Addr}
    (h : newValue update old (checkRoleAddress deps) = .ok new) (hold : old.isSome = true) :
    new.isSome = true := by
  rcases newValue_eq_ok.mp h with ⟨-, rfl⟩ | ⟨v, -, hv⟩
  · exact hold
  · simp only [checkRoleAddress, bind_eq_ok, pure_eq_ok] at hv
    obtain ⟨addr, -, rfl⟩ := hv
    rfl

theorem applyConfigParams_roles {deps : Deps} {r : ReserveStateV1} {c c' : ContractStateV1}
    {p : UpdateContractConfigParams} (h : applyConfigParams deps r c p = .ok c') :
    (c.custodian.isSome = true → c'.custodian.isSome = true) ∧
      (c.liquidator.isSome = true → c'.liquidator.isSome = true) := by
  simp only [applyConfigParams, bind_eq_ok, pure_eq_ok] at h
  obtain ⟨_, -, _, -, _, -, _, -, _, -, _, -, _, -, _, -, _, -, custodian, hcustodian, liquidator,
    hliquidator, _, -, _, -, rfl⟩ := h
  exact ⟨newValue_role_isSome hcustodian, newValue_role_isSome hliquidator⟩

namespace UpToDate

theorem congr (h : UpToDate s) (hcustodian : s'.contract.custodian = s.contract.custodian)
    (hliquidator : s'.contract.liquidator = s.contract.liquidator)
    (hyear : s'.contract.rateParams.secondsPerYear = s.contract.rateParams.secondsPerYear) :
    UpToDate s' :=
  ⟨hcustodian ▸ h.custodian, hliquidator ▸ h.liquidator, hyear ▸ h.year⟩

/-- No message takes anything away. -/
theorem step (h : UpToDate s) (hstep : PoolStep s e s') : UpToDate s' := by
  have hd : dispatch e.deps s e.env e.info e.msg = .ok (s', e.response) := execute_eq_ok hstep
  cases hstep.effect with
  | neutral msg =>
    cases neutral_settings msg hd with
    | state _ set => exact h.congr (by rw [set]) (by rw [set]) (by rw [set])
    | lenderAttrs _ set => exact h.congr (by rw [set]) (by rw [set]) (by rw [set])
    | borrowerAttrs _ set => exact h.congr (by rw [set]) (by rw [set]) (by rw [set])
    | none same => exact h.congr (by rw [same]) (by rw [same]) (by rw [same])
  | updateSupportedCollateral _ _ _ contract =>
    apply h.congr <;> rw [PoolStorage.setContractStateV1_contract, contract]
  | updateContractConfig _ _ _ applied =>
    obtain ⟨hcustodian, hliquidator⟩ := applyConfigParams_roles applied
    refine ⟨hcustodian h.custodian, hliquidator h.liquidator, ?_⟩
    rw [PoolStorage.setContractStateV1_contract, (applyConfigParams_spec applied).1]
    exact h.year
  | updateRateParams _ _ _ _ valid =>
    exact ⟨h.custodian, h.liquidator, RateParamsV1.validate_year valid⟩
  | _ => exact h.congr rfl rfl rfl

end UpToDate

theorem DeployedAt.upToDate {t : Timestamp} (h : DeployedAt t s) : UpToDate s := by
  have hyear := RateParamsV1.validate_year h.fresh.rateParams
  induction h with
  | instantiated _ hinst =>
    simp only [instantiate, bind_eq_ok, Prod.exists, ensure_eq_ok, exists_const, pure_eq_ok,
      Prod.mk.injEq] at hinst
    obtain ⟨-, -, _, -, _, -, _, _, -, -, -, _, -, -, -, -, -, _, -, -, -, _, -, _, -, -, -, -, -,
      -, -, -, -, _, -, _, -, rfl, -⟩ := hinst
    exact ⟨rfl, rfl, hyear⟩
  | replied _ hreply ih =>
    obtain ⟨addr, -, -, rfl⟩ := reply_spec hreply
    exact ⟨(ih hyear).custodian, (ih hyear).liquidator, hyear⟩

theorem Reachable.upToDate (h : Reachable s) : UpToDate s := by
  obtain ⟨t, s₀, ts, hdeployed, run⟩ := h
  exact run.invariant (fun _ _ _ => UpToDate.step) hdeployed.upToDate

/-! ## A migration as a message -/

/-- The pool with these accounts in its two roles. -/
def PoolStorage.withRoles (s : PoolStorage) (custodian liquidator : Addr) : PoolStorage :=
  s.setContractStateV1 { s.contract with
    custodian := some custodian
    liquidator := some liquidator }

/-- The update of the configuration that asks for what a migration asks for. -/
def MigrateMsg.configParams (msg : MigrateMsg) : UpdateContractConfigParams where
  marginRate := none
  liquidationRate := none
  liquidationBonusRate := none
  priceOracleAddress := none
  minLend := none
  minBorrow := none
  maxBorrowerCollateralTypes := none
  commitMarketId := none
  badDebtLossAllocation := none
  custodian := msg.custodian
  liquidator := msg.liquidator
  maxLiquidationStalenessSeconds := none
  liquidationAccess := none

theorem newValue_roleAfter {deps : Deps} {update : Option String} {stored : Option Addr}
    {role : Addr} (h : RoleAfter deps update stored role) :
    newValue update stored (checkRoleAddress deps) = .ok (some role) := by
  rw [newValue_eq_ok]
  cases h with
  | @named address _ valid =>
    refine Or.inr ⟨address, rfl, ?_⟩
    simp only [checkRoleAddress, bind_eq_ok, addrValidate_eq_ok, pure_eq_ok]
    exact ⟨_, ⟨valid, rfl⟩, rfl⟩
  | kept same => exact Or.inl ⟨rfl, same.symm⟩

/-- Valid rates pass the checks that they have passed before. -/
theorem checkRates_of_valid {m l b : Decimal256} (message : String) (h : RatesValid m l b) :
    checkRates m l b message = .ok () := by
  have hpos : ∀ d : Decimal256, 0 < d.atomics → d.isZero = false := by
    intro d hd
    rw [← Bool.not_eq_true, Decimal256.isZero_iff]
    omega
  have hml := Decimal256.lt_def.mp h.margin_lt
  simp only [checkRates, bind_eq_ok, ensure_eq_ok, exists_const]
  refine ⟨hpos m h.margin_pos, hpos l (by omega), h.liquidation_le, h.margin_lt, h.bonus_gt, ?_⟩
  have hfits : b.atomics * m.atomics / decimalFractional < 2 ^ 256 :=
    Nat.lt_trans h.bonus_margin (by decide)
  have hproduct : b.checkedMul m = .ok ⟨_, hfits⟩ := Decimal256.checkedMul_eq_ok.mpr rfl
  unfold checkBonusTimesMargin
  rw [hproduct]
  exact if_pos h.bonus_margin

theorem ensurePermissionlessConfig_of_safe (h : ConfigSafety s) :
    ensurePermissionlessConfig s.contract.liquidationAccess
      s.contract.maxLiquidationStalenessSeconds s.contract.badDebtLossAllocation
      s.reserve.deficitUnderlying.val = .ok () := by
  cases haccess : s.contract.liquidationAccess with
  | liquidatorOnly => rfl
  | permissionless =>
    obtain ⟨halloc, hstale, hdeficit⟩ := h.permissionless haccess
    simp only [ensurePermissionlessConfig, bind_eq_ok, ensure_eq_ok, exists_const]
    exact ⟨hstale, halloc, hdeficit⟩

theorem applyConfigParams_roles_eq {deps : Deps} {msg : MigrateMsg} {custodian liquidator : Addr}
    (r : ReserveStateV1) {c : ContractStateV1}
    (hcustodian : RoleAfter deps msg.custodian c.custodian custodian)
    (hliquidator : RoleAfter deps msg.liquidator c.liquidator liquidator) :
    applyConfigParams deps r c msg.configParams =
      .ok { c with custodian := some custodian, liquidator := some liquidator } := by
  have hcustodian := newValue_roleAfter hcustodian
  have hliquidator := newValue_roleAfter hliquidator
  unfold applyConfigParams MigrateMsg.configParams
  rw [hcustodian, hliquidator]
  rfl

/-- What a migration does to the roles, the custodian can do with a message, if it does
anything. -/
theorem Reachable.step_withRoles (h : Reachable s) {deps : Deps} {msg : MigrateMsg}
    {custodian liquidator : Addr}
    (hcustodian : RoleAfter deps msg.custodian s.contract.custodian custodian)
    (hliquidator : RoleAfter deps msg.liquidator s.contract.liquidator liquidator) :
    s.withRoles custodian liquidator = s ∨
      ∃ e, PoolStep s e (s.withRoles custodian liquidator) ∧
        e.msg = .updateContractConfig msg.configParams ∧
        s.contract.custodian = some e.info.sender := by
  have hsafe := h.configSafety
  obtain ⟨sender, hsender⟩ := Option.isSome_iff_exists.mp h.upToDate.custodian
  have happlied := applyConfigParams_roles_eq s.reserve hcustodian hliquidator
  by_cases hany : msg.configParams.hasAny = true
  · right
    have hupdate : ∃ res, updateContractConfig deps s ⟨sender, []⟩ msg.configParams =
        .ok (s.withRoles custodian liquidator, res) := by
      simp only [updateContractConfig, assertCustodian, checkStaleness, bind_eq_ok, okOr_eq_ok,
        ensure_eq_ok, exists_const, pure_eq_ok, Prod.mk.injEq]
      exact ⟨_, ⟨sender, hsender, rfl⟩, trivial, hany, _, happlied, (),
        checkRates_of_valid _ hsafe.rates, hsafe.staleness, (),
        ensurePermissionlessConfig_of_safe hsafe, rfl, rfl⟩
    obtain ⟨res, hupdate⟩ := hupdate
    let call : Call := ⟨deps, ⟨⟨0⟩, 0, ""⟩, ⟨sender, []⟩, .updateContractConfig msg.configParams⟩
    refine ⟨{ call with response := res }, ?_, rfl, hsender⟩
    simp only [PoolStep, execute, bind_eq_ok, ensure_eq_ok, exists_const]
    exact ⟨Or.inl rfl, Or.inr rfl, hupdate⟩
  · left
    have hnone : msg.custodian = none ∧ msg.liquidator = none := by
      simpa [UpdateContractConfigParams.hasAny, MigrateMsg.configParams] using hany
    rw [hnone.1] at hcustodian
    rw [hnone.2] at hliquidator
    cases hcustodian with
    | kept hc =>
      cases hliquidator with
      | kept hl =>
        unfold PoolStorage.withRoles PoolStorage.setContractStateV1
        rw [← hc, ← hl]

/-- So the pool is reachable afterwards. -/
theorem Reachable.withRoles (h : Reachable s) {deps : Deps} {msg : MigrateMsg}
    {custodian liquidator : Addr}
    (hcustodian : RoleAfter deps msg.custodian s.contract.custodian custodian)
    (hliquidator : RoleAfter deps msg.liquidator s.contract.liquidator liquidator) :
    Reachable (s.withRoles custodian liquidator) := by
  rcases h.step_withRoles hcustodian hliquidator with hsame | ⟨e, hstep, -⟩
  · rw [hsame]
    exact h
  · exact h.step hstep

/-! ## Lifetimes -/

section

variable {V : Type} [LinearOrder V] [SemVer V] {store₀ store store' : StoredPool} {deps : Deps}
  {contractVersion : String} {msg : MigrateMsg} {attributes : List (String × String)}
  {ts : List (Transition StoredPool (LifeEvent Event MigrateMsg))}

/-- The pool and its releases. -/
def poolReleases (V : Type) [LinearOrder V] [SemVer V] :
    Releasable StoredPool PoolStorage Event MigrateMsg where
  load := StoredPool.load
  version store := store.version
  step := PoolStep
  migrates deps contractVersion msg store store' :=
    ∃ attributes, migrate V deps contractVersion store msg = .ok (store', attributes)

theorem poolReleases_versioned : (poolReleases V).Versioned V := by
  rintro deps contractVersion msg store store' ⟨attributes, h⟩
  obtain ⟨-, hnewer, c, o, custodian, liquidator, -, -, -, -, hout⟩ := migrate_eq_ok.mp h
  exact ⟨hnewer, congrArg (fun out => out.1.version.version) hout⟩

/-- A pool that is loaded is the books under its configuration and its ownership. -/
theorem StoredPool.load_eq_ok : store.load = .ok s ↔
    ∃ c o, store.state.load = .ok c ∧ store.ownership = some o ∧ store.books c o = s := by
  simp only [StoredPool.load, bind_eq_ok, fromStd_eq_ok, okOr_eq_ok, pure_eq_ok]
  constructor
  · rintro ⟨c, hc, o, ho, rfl⟩
    exact ⟨c, o, hc, ho, rfl⟩
  · rintro ⟨c, o, hc, ho, rfl⟩
    exact ⟨c, hc, o, ho, rfl⟩

/-- After a migration the pool can be loaded, with the books that were there. -/
theorem load_migrated (c : ContractStateV1) (o : Ownership) (custodian liquidator : Addr) :
    (migrated store contractVersion msg c o custodian liquidator).1.load =
      .ok ((store.books c.withYear o).withRoles custodian liquidator) := by
  rw [StoredPool.load_eq_ok]
  exact ⟨_, o, ContractStateV1.load_save _, rfl, rfl⟩

/-- A pool with a complete configuration has at most its roles changed. -/
theorem UpToDate.migrate (hs : UpToDate s) (hload : store.load = .ok s)
    (h : migrate V deps contractVersion store msg = .ok (store', attributes)) :
    ∃ custodian liquidator, RoleAfter deps msg.custodian s.contract.custodian custodian ∧
      RoleAfter deps msg.liquidator s.contract.liquidator liquidator ∧
      store'.load = .ok (s.withRoles custodian liquidator) := by
  obtain ⟨c, o, hc, ho, rfl⟩ := StoredPool.load_eq_ok.mp hload
  obtain ⟨-, -, c', o', custodian, liquidator, hc', howner, hcustodian, hliquidator, hout⟩ :=
    migrate_eq_ok.mp h
  obtain rfl : c = c' := Except.ok.inj (hc.symm.trans hc')
  rw [ho] at howner
  have hyear : c.withYear = c := ContractStateV1.withYear_eq hs.year
  obtain ⟨role, hrole⟩ := Option.isSome_iff_exists.mp hs.liquidator
  have hrole : c.liquidator = some role := hrole
  rw [hrole, Option.some_or, ← hrole] at hliquidator
  refine ⟨custodian, liquidator, hcustodian, hliquidator, ?_⟩
  have hstore' : store' = (migrated store contractVersion msg c o' custodian liquidator).1 :=
    congrArg Prod.fst hout
  rw [hstore', load_migrated, hyear, howner.eq_stored]

/-- What messages and changes of the roles preserve holds all along. -/
theorem lifetime_invariant {I : PoolStorage → Prop}
    (hstep : ∀ s e s', I s → PoolStep s e s' → I s')
    (hroles : ∀ s custodian liquidator, I s → I (s.withRoles custodian liquidator))
    (run : Run (LifeStep (poolReleases V)) store₀ ts store) (hload : store₀.load = .ok s)
    (hs : UpToDate s) (hI : I s) : ∃ s', store.load = .ok s' ∧ UpToDate s' ∧ I s' := by
  refine run.invariant (I := fun store => ∃ s', store.load = .ok s' ∧ UpToDate s' ∧ I s')
    (fun store a store' hlive h => ?_) ⟨s, hload, hs, hI⟩
  obtain ⟨s₁, hload₁, hs₁, hI₁⟩ := hlive
  cases h with
  | message loaded h saved =>
    obtain rfl := Except.ok.inj (hload₁.symm.trans loaded)
    exact ⟨_, saved, hs₁.step h, hstep _ _ _ hI₁ h⟩
  | upgrade h =>
    obtain ⟨attributes, h⟩ := h
    obtain ⟨custodian, liquidator, -, -, hload'⟩ := hs₁.migrate hload₁ h
    exact ⟨_, hload', ⟨rfl, rfl, hs₁.year⟩, hroles _ _ _ hI₁⟩

/-- A run of messages is a lifetime without releases. -/
theorem UpToDate.lifetime {us : List (Transition PoolStorage Event)} {s₀ : PoolStorage}
    (hs : UpToDate s₀) (run : Run PoolStep s₀ us s) (version : ContractVersion) :
    Run (LifeStep (poolReleases V)) (s₀.save version) (underRelease (·.save version) us)
      (s.save version) :=
  lifetime_of_run (c := poolReleases V)
    (fun _ hs => PoolStorage.load_save hs.year version)
    (fun s => (rfl : (s.save version).version = version))
    (fun _ _ _ => UpToDate.step) run hs

/-! ## Releases are messages -/

/-- What a step of a lifetime is among the messages of a pool: a message is itself, and a
release is the custodian's change of the roles, or nothing. -/
inductive LifeEvent.ActsAs : LifeEvent Event MigrateMsg → List Event → Prop
  | message {e : Event} : ActsAs (.message e) [e]
  | unchanged {deps : Deps} {contractVersion : String} {msg : MigrateMsg} :
      ActsAs (.upgrade deps contractVersion msg) []
  | roles {deps : Deps} {contractVersion : String} {msg : MigrateMsg} {e : Event}
      (h : e.msg = .updateContractConfig msg.configParams) :
      ActsAs (.upgrade deps contractVersion msg) [e]

/-- One step of a lifetime is at most one message. -/
theorem Reachable.lifeStep {a : LifeEvent Event MigrateMsg} (hs : Reachable s)
    (hload : store.load = .ok s) (h : LifeStep (poolReleases V) store a store') :
    ∃ s' us, store'.load = .ok s' ∧ Run PoolStep s us s' ∧ a.ActsAs (us.map (·.label)) := by
  cases h with
  | message loaded h saved =>
    obtain rfl := Except.ok.inj (hload.symm.trans loaded)
    exact ⟨_, _, saved, .single h, .message⟩
  | upgrade h =>
    obtain ⟨attributes, h⟩ := h
    obtain ⟨custodian, liquidator, hcustodian, hliquidator, hload'⟩ := hs.upToDate.migrate hload h
    rcases hs.step_withRoles hcustodian hliquidator with hsame | ⟨e, hstep, hmsg, -⟩
    · rw [hsame] at hload'
      exact ⟨s, [], hload', .nil, .unchanged⟩
    · exact ⟨_, _, hload', .single hstep, .roles hmsg⟩

/-- A pool that lives through releases is in a state that messages alone lead to, the same
messages in the same order, with changes of the roles by the custodian in between. -/
theorem upgrades_are_custodian_messages {t : Timestamp} {s₀ : PoolStorage}
    (hdeployed : DeployedAt t s₀) (hload : store₀.load = .ok s₀)
    (run : Run (LifeStep (poolReleases V)) store₀ ts store) :
    ∃ s us acts, store.load = .ok s ∧ Run PoolStep s₀ us s ∧
      List.Forall₂ LifeEvent.ActsAs (ts.map (·.label)) acts ∧
      us.map (·.label) = acts.flatten ∧ Rising V (store₀.version.version :: releases ts) := by
  have hrising := releases_rising poolReleases_versioned run
  suffices h : ∃ s us acts, store.load = .ok s ∧ Run PoolStep s₀ us s ∧
      List.Forall₂ LifeEvent.ActsAs (ts.map (·.label)) acts ∧
      us.map (·.label) = acts.flatten by
    obtain ⟨s, us, acts, hstore, hrun, hacts, hlabels⟩ := h
    exact ⟨s, us, acts, hstore, hrun, hacts, hlabels, hrising⟩
  clear hrising
  induction run with
  | nil => exact ⟨s₀, [], [], hload, .nil, .nil, rfl⟩
  | snoc _ h ih =>
    obtain ⟨s, us, acts, hstore, hrun, hacts, hlabels⟩ := ih
    obtain ⟨s', us', hstore', hrun', hacts'⟩ := Reachable.lifeStep ⟨t, s₀, us, hdeployed, hrun⟩
      hstore h
    refine ⟨s', us ++ us', acts ++ [us'.map (·.label)], hstore', hrun.append hrun', ?_, ?_⟩
    · rw [List.map_append]
      exact List.rel_append hacts (.cons hacts' .nil)
    · rw [List.map_append, hlabels, List.flatten_append, List.flatten_singleton]

end

namespace Demo

/-- Alice's pool can go on to the next release, with Bob as its custodian. -/
def upgradeCheck (s : PoolStorage) : Bool :=
  (migrate Version (deps 10) "1.2.0" (s.save firstRelease) ⟨some "bob", none⟩).isOk

theorem upgrades_are_custodian_messages_bob : ∃ s₀ store ts s us acts,
    Run (LifeStep (poolReleases Version)) (s₀.save firstRelease) ts store ∧
      releases ts = ["1.2.0"] ∧ store.load = .ok s ∧ Run PoolStep s₀ us s ∧
      List.Forall₂ LifeEvent.ActsAs (ts.map (·.label)) acts ∧ us.map (·.label) = acts.flatten ∧
      Rising Version ["1.1.0", "1.2.0"] := by
  have hreplay : replayCheck (deps 10) (env 0) ⟨"owner", []⟩ msg opening upgradeCheck = true := by
    decide +kernel
  obtain ⟨s₀, us, s, hdeployed, run, -, hcheck⟩ := exists_run hreplay
  obtain ⟨⟨store, attributes⟩, hmigrate⟩ := isOk_iff.mp hcheck
  have hload := PoolStorage.load_save hdeployed.upToDate.year firstRelease
  have hlife :=
    (hdeployed.upToDate.lifetime run firstRelease).snoc (.upgrade ⟨attributes, hmigrate⟩)
  obtain ⟨s', us', acts, hstore, hrun, hacts, hlabels, hrising⟩ :=
    upgrades_are_custodian_messages hdeployed hload hlife
  rw [releases_append, releases_underRelease] at hrising
  refine ⟨s₀, store, _, s', us', acts, hlife, ?_, hstore, hrun, hacts, hlabels, hrising⟩
  rw [releases_append, releases_underRelease]
  rfl

end Demo

/-! ## Pools of older code -/

section

variable {V : Type} [LinearOrder V] [SemVer V] {store₀ store : StoredPool} {deps : Deps}
  {contractVersion : String} {msg : MigrateMsg} {attributes : List (String × String)}
  {ts : List (Transition StoredPool (LifeEvent Event MigrateMsg))}

/-- The migration of a pool that older code left behind keeps its books, and what it leaves loads
after all messages and releases.  Ledgers that were sound stay so. -/
theorem migrated_pool_keeps_books {old : StoredPool} {c : ContractStateV1}
    (hc : old.state.load = .ok c)
    (h : migrate V deps contractVersion old msg = .ok (store₀, attributes))
    (run : Run (LifeStep (poolReleases V)) store₀ ts store) :
    (∃ s₀ custodian liquidator, store₀.load = .ok s₀ ∧
      RoleAfter deps msg.custodian c.custodian custodian ∧
      RoleAfter deps msg.liquidator (c.liquidator.or s₀.ownership.owner) liquidator ∧
      Recovered deps old.state.admin old.ownership s₀.ownership ∧
      s₀ = (old.books c.withYear s₀.ownership).withRoles custodian liquidator) ∧
    (∃ s, store.load = .ok s ∧ UpToDate s ∧
      ∀ o, CollateralLedger (old.books c o) → DebtLedger (old.books c o) →
        CollateralLedger s ∧ DebtLedger s) ∧
    Rising V (old.version.version :: contractVersion :: releases ts) := by
  have hstep : LifeStep (poolReleases V) old (.upgrade deps contractVersion msg) store₀ :=
    .upgrade ⟨attributes, h⟩
  have hrising := releases_rising poolReleases_versioned ((Run.single hstep).append run)
  obtain ⟨-, -, c', o', custodian, liquidator, hc', howner, hcustodian, hliquidator, hout⟩ :=
    migrate_eq_ok.mp h
  obtain rfl : c = c' := Except.ok.inj (hc.symm.trans hc')
  have hstore₀ : store₀ = (migrated old contractVersion msg c o' custodian liquidator).1 :=
    congrArg Prod.fst hout
  have hload : store₀.load = .ok ((old.books c.withYear o').withRoles custodian liquidator) := by
    rw [hstore₀, load_migrated]
  refine ⟨⟨_, custodian, liquidator, hload, hcustodian, hliquidator, howner, rfl⟩, ?_, ?_⟩
  · obtain ⟨s, hstore, hs, hledgers⟩ := lifetime_invariant
      (I := fun s => ∀ o, CollateralLedger (old.books c o) → DebtLedger (old.books c o) →
        CollateralLedger s ∧ DebtLedger s)
      (fun s e s' hI hstep o hheld hdebt => by
        obtain ⟨hcollateral, hdebts⟩ := hI o hheld hdebt
        exact ⟨hcollateral.step hstep, hdebts.step hstep⟩)
      (fun s custodian liquidator hI o hheld hdebt => by
        obtain ⟨hcollateral, hdebts⟩ := hI o hheld hdebt
        exact ⟨hcollateral.congr_contract rfl rfl rfl rfl, hdebts.congr rfl rfl⟩)
      run hload ⟨rfl, rfl, rfl⟩ (fun o hheld hdebt =>
        ⟨hheld.congr_contract rfl rfl rfl rfl, hdebt.congr rfl rfl⟩)
    exact ⟨s, hstore, hs, hledgers⟩
  · rw [releases_append] at hrising
    exact hrising

end

namespace Demo

/-- The pool as code from before the roles would have left it. -/
def leftBehind (s : PoolStorage) : StoredPool :=
  { s.save ⟨poolContractName, "0.1.0"⟩ with
    state := { s.contract.save with
      admin := some "founder"
      custodian := none
      liquidator := none
      liquidationAccess := some "owner_only" }
    ownership := none }

/-- The custodian that the old release did not have. -/
def leftBehindMsg : MigrateMsg := ⟨some "custodian", none⟩

/-- It can be migrated, and then Alice repays a part of her debt. -/
def leftBehindCheck (s : PoolStorage) : Bool :=
  match migrate Version (deps 10) "1.1.0" (leftBehind s) leftBehindMsg with
  | .error _ => false
  | .ok (store, _) =>
    match store.load with
    | .error _ => false
    | .ok s₁ => (execute (deps 10) s₁ (env 0) ⟨"alice", [⟨"usd", 100⟩]⟩ .repay).isOk

theorem leftBehind_load (s : PoolStorage) :
    (leftBehind s).state.load = .ok { s.contract.withYear with
      custodian := none
      liquidator := none
      liquidationAccess := .liquidatorOnly } := by
  have haccess : (leftBehind s).state.loadAccess = .ok .liquidatorOnly := by
    show liquidationAccessFromStorageStr "owner_only" = .ok .liquidatorOnly
    exact if_pos (Or.inr rfl)
  unfold StoredContractState.load
  rw [haccess, ok_bind, pure_eq_ok]
  dsimp only [ContractStateV1.withYear]
  rw [← RateParamsV1.load_save]
  rfl

theorem migrated_pool_keeps_books_founder : ∃ s₀ s store₀ store ts,
    Run (LifeStep (poolReleases Version)) store₀ ts store ∧ (messages ts).length = 1 ∧
      store₀.load = .ok s₀ ∧ s₀.ownership.owner = some "founder" ∧
      s₀.contract.liquidator = some "founder" ∧ store.load = .ok s ∧ UpToDate s ∧
      CollateralLedger s ∧ DebtLedger s := by
  have hreplay : replayCheck (deps 10) (env 0) ⟨"owner", []⟩ msg opening leftBehindCheck =
      true := by
    decide +kernel
  obtain ⟨t₀, us, s, hdeployed, run, -, hcheck⟩ := exists_run hreplay
  have hreachable : Reachable s := ⟨_, t₀, us, hdeployed, run⟩
  unfold leftBehindCheck at hcheck
  split at hcheck
  · cases hcheck
  · rename_i store₀ attributes hmigrate
    split at hcheck
    · cases hcheck
    · rename_i s₁ hload
      obtain ⟨⟨s₂, response⟩, hrepay⟩ := isOk_iff.mp hcheck
      have hbooks {ts store} (run : Run (LifeStep (poolReleases Version)) store₀ ts store) :=
        migrated_pool_keeps_books (leftBehind_load s) hmigrate run
      obtain ⟨-, ⟨s', hload', hs', -⟩, -⟩ := hbooks .nil
      obtain rfl := Except.ok.inj (hload.symm.trans hload')
      let repaid : Event :=
        ⟨⟨deps 10, env 0, ⟨"alice", [⟨"usd", 100⟩]⟩, .repay⟩, response⟩
      have hstep : PoolStep s₁ repaid s₂ := hrepay
      have hlife := Run.single (LifeStep.message (c := poolReleases Version) hload hstep
        (PoolStorage.load_save (hs'.step hstep).year store₀.version) rfl)
      obtain ⟨⟨s₀, custodian, liquidator, hload₀, -, hliquidator, howner, hs₀⟩,
        ⟨last, hstore, hupToDate, hledgers⟩, -⟩ := hbooks hlife
      have hfounder : s₀.ownership = Ownership.initializeOwner "founder" := by
        generalize s₀.ownership = o at howner
        cases howner
        rfl
      rw [hfounder] at hliquidator
      have hliquidator : liquidator = "founder" := by
        cases hliquidator with
        | kept same => exact (Option.some.inj same).symm
      refine ⟨s₀, last, store₀, _, _, hlife, rfl, hload₀, ?_, ?_, hstore, hupToDate,
        hledgers s.ownership (hreachable.collateralLedger.congr_contract rfl rfl rfl rfl)
          (hreachable.debtLedger.congr rfl rfl)⟩
      · rw [hfounder]
        rfl
      · rw [hs₀, hliquidator]
        rfl

end Demo

end DemocratizedPrime
