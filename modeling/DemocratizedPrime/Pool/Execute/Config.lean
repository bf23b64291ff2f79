import DemocratizedPrime.Pool.Validation

/-!
# Configuration and directed sales

The messages that change no balance: the custodian's configuration, the owner's
commit rules, the ownership itself, and the borrower's directed-sale offer.

`updateContractConfig` applies the fields that are present in a fixed order and
checks the result as a whole.  Only `liquidationRate` has a condition on the
value it replaces.
-/

namespace DemocratizedPrime

open Result

/-! ## Ownership -/

/-- Offer, take over or give up the ownership. -/
def updateOwnership (deps : Deps) (store : PoolStorage) (env : Env) (info : MessageInfo)
    (action : OwnershipAction) : ContractResult (PoolStorage × Response) := do
  let ownership ← store.ownership.update deps env info action
  let res := Response.new.addText "action" "update_ownership"
    |>.addText "owner" (optionText ownership.owner)
    |>.addText "pending_owner" (optionText ownership.pendingOwner)
    |>.addText "pending_expiry" (optionText (ownership.pendingExpiry.map Expiration.toText))
  return ({ store with ownership }, res)

theorem updateOwnership_spec {deps : Deps} {s s' : PoolStorage} {env : Env}
    {info : MessageInfo} {action : OwnershipAction} {res : Response}
    (h : updateOwnership deps s env info action = .ok (s', res)) :
    ∃ ownership, s' = { s with ownership } ∧ info.funds = [] ∧ res.messages = [] := by
  simp only [updateOwnership, bind_eq_ok, pure_eq_ok, Prod.mk.injEq] at h
  obtain ⟨ownership, hupdate, rfl, rfl⟩ := h
  simp only [Ownership.update, bind_eq_ok, ensure_eq_ok, exists_const] at hupdate
  exact ⟨ownership, rfl, hupdate.1, rfl⟩

/-! ## Rate parameters -/

/-- The custodian changes the rates, after the interest at the old ones is booked. -/
def updateRateParams (store : PoolStorage) (env : Env) (info : MessageInfo)
    (rateParams : RateParamsV1) : ContractResult (PoolStorage × Response) := do
  let contract := store.contract
  assertCustodian contract info.sender "Only the contract custodian may update rate parameters"
  ensure (info.funds = []) noFundsAccepted
  rateParams.validate
  -- The interest up to now is charged with the old parameters.
  let (store, reserve) ← updateReserveIndexes store env contract.rateParams
  let contract := { contract with rateParams }
  let store := store.setContractStateV1 contract
  let res ← (Response.new.addText "action" "update_rate_params"
    |>.addAttribute "rate_params_json" (.rateParams contract.rateParams)).attachRates reserve
      contract.rateParams
  return (store, res)

theorem updateRateParams_spec {s s' : PoolStorage} {env : Env} {info : MessageInfo}
    {rateParams : RateParamsV1} {res : Response}
    (h : updateRateParams s env info rateParams = .ok (s', res)) :
    ∃ r, info.funds = [] ∧ rateParams.validate = .ok () ∧ AccruedTo s env.blockTime r ∧
      s' = (s.setReserveStateV1 r).setContractStateV1 { s.contract with rateParams } ∧
      res.messages = [] := by
  simp only [updateRateParams, bind_eq_ok, Prod.exists, updateReserveIndexes_eq_ok, ensure_eq_ok,
    exists_const, pure_eq_ok, Prod.mk.injEq] at h
  obtain ⟨-, -, hfunds, _, hvalid, _, r, ⟨hr, rfl⟩, res₁, hres₁, rfl, rfl⟩ := h
  exact ⟨r, hfunds, hvalid, hr, rfl, by simpa using attachRates_messages hres₁⟩

/-! ## Supported collateral -/

/-- No asset is listed twice. -/
def checkDistinctAssetIds : (ids seen : List String) → ContractResult Unit
  | [], _ => return ()
  | id :: rest, seen => do
    ensure (seen.contains id = false) (illegalArgument s!"Duplicate asset id: {id}")
    checkDistinctAssetIds rest (id :: seen)

/-- Replace the first entry of an asset, or append one. -/
def upsertCollateralAsset (asset : CollateralAssetV1) :
    List CollateralAssetV1 → List CollateralAssetV1
  | [] => [asset]
  | entry :: rest =>
    if entry.assetId = asset.assetId then asset :: rest
    else entry :: upsertCollateralAsset asset rest

/-- The error of an update that would take the lent denom as collateral. -/
def collateralAssetIsLendingDenom (asset : CollateralAssetV1) : ContractError :=
  illegalArgument s!"Collateral asset cannot be the lending denom ({asset.assetId})"

/-- One round of the loop over the assets to update. -/
def updateCollateralAsset (contract : ContractStateV1) (asset : CollateralAssetV1) :
    ContractResult ContractStateV1 := do
  asset.validate
  ensure (asset.assetId ≠ contract.lendingDenom.name) (collateralAssetIsLendingDenom asset)
  return { contract with supportedCollateralAssets :=
    upsertCollateralAsset asset contract.supportedCollateralAssets }

/-- An asset that a borrower holds stays supported. -/
def checkNotInUse (store : PoolStorage) (assetId : String) : ContractResult Unit :=
  ensure (store.isCollateralAssetInUse assetId = false) (illegalState
    s!"Cannot remove collateral asset [{assetId}]: held by at least one borrower")

/-- An attribute with names, if there are any. -/
def addNames (res : Response) (key : String) (names : List String) : Response :=
  if names.isEmpty then res else res.addAttribute key (.names names)

/-- The custodian changes the assets that are taken; one in use stays. -/
def updateSupportedCollateral (store : PoolStorage) (info : MessageInfo)
    (toUpdate : List CollateralAssetV1) (toRemove : List String) :
    ContractResult (PoolStorage × Response) := do
  let contract := store.contract
  assertCustodian contract info.sender
    "Only the contract custodian may update supported collateral"
  ensure (info.funds = []) noFundsAccepted
  let updatedIds := toUpdate.map (·.assetId)
  checkDistinctAssetIds (updatedIds ++ toRemove) []
  let contract ← toUpdate.foldlM updateCollateralAsset contract
  let toRemoveFiltered := toRemove.filter fun id => contract.supports id
  toRemoveFiltered.forM (checkNotInUse store)
  let contract := { contract with supportedCollateralAssets :=
    contract.supportedCollateralAssets.filter fun e => !toRemoveFiltered.contains e.assetId }
  let store := store.setContractStateV1 contract
  let res := Response.new.addText "action" "update_supported_collateral"
  let res := addNames res "supported_collateral_updated_json" updatedIds
  let res := addNames res "supported_collateral_removed_json" toRemoveFiltered
  return (store, res)

/-- The ids of the supported list. -/
def assetIds (l : List CollateralAssetV1) : List String := l.map (·.assetId)

theorem supports_iff {c : ContractStateV1} {a : String} :
    c.supports a = true ↔ a ∈ assetIds c.supportedCollateralAssets := by
  simp only [ContractStateV1.supports, assetIds, List.any_eq_true, List.mem_map, beq_iff_eq]

@[simp] theorem assetIds_cons (e : CollateralAssetV1) (l : List CollateralAssetV1) :
    assetIds (e :: l) = e.assetId :: assetIds l := rfl

/-- An update replaces an entry in place, or appends one. -/
theorem assetIds_upsert (asset : CollateralAssetV1) (l : List CollateralAssetV1) :
    assetIds (upsertCollateralAsset asset l) =
      if asset.assetId ∈ assetIds l then assetIds l else assetIds l ++ [asset.assetId] := by
  induction l with
  | nil => rfl
  | cons entry rest ih =>
    unfold upsertCollateralAsset
    by_cases h : entry.assetId = asset.assetId
    · simp [h]
    · rw [if_neg h, assetIds_cons, assetIds_cons, ih]
      by_cases hmem : asset.assetId ∈ assetIds rest
      · simp [hmem]
      · simp [hmem, Ne.symm h]

theorem nodup_assetIds_upsert {asset : CollateralAssetV1} {l : List CollateralAssetV1}
    (h : (assetIds l).Nodup) : (assetIds (upsertCollateralAsset asset l)).Nodup := by
  rw [assetIds_upsert]
  split
  · exact h
  · rename_i hnew
    exact List.nodup_append.mpr ⟨h, List.nodup_singleton _, by
      rintro a ha b hb rfl
      rw [List.mem_singleton] at hb
      exact hnew (hb ▸ ha)⟩

theorem mem_upsert {asset e : CollateralAssetV1} {l : List CollateralAssetV1}
    (h : e ∈ upsertCollateralAsset asset l) : e = asset ∨ e ∈ l := by
  induction l with
  | nil => exact Or.inl (List.mem_singleton.mp h)
  | cons entry rest ih =>
    unfold upsertCollateralAsset at h
    split at h
    · rcases List.mem_cons.mp h with hnew | hrest
      · exact Or.inl hnew
      · exact Or.inr (List.mem_cons_of_mem _ hrest)
    · rcases List.mem_cons.mp h with hentry | hrest
      · exact Or.inr (hentry ▸ List.mem_cons_self)
      · exact (ih hrest).imp_right (List.mem_cons_of_mem _)

/-- The list of supported assets names no asset twice, and not the lending
denomination, and each of its entries passed the checks. -/
structure SupportedListValid (c : ContractStateV1) : Prop where
  nodup : (assetIds c.supportedCollateralAssets).Nodup
  notLending : c.lendingDenom.name ∉ assetIds c.supportedCollateralAssets
  valid : ∀ e ∈ c.supportedCollateralAssets, e.validate = .ok ()

/-- Updating assets keeps the list valid and drops none. -/
theorem updateCollateralAsset_spec {c c' : ContractStateV1} {asset : CollateralAssetV1}
    (h : updateCollateralAsset c asset = .ok c') :
    c' = { c with supportedCollateralAssets := c'.supportedCollateralAssets } ∧
      (SupportedListValid c → SupportedListValid c') ∧
      ∀ a, c.supports a = true → c'.supports a = true := by
  simp only [updateCollateralAsset, bind_eq_ok, ensure_eq_ok, exists_const, pure_eq_ok] at h
  obtain ⟨_, hasset, hlending, rfl⟩ := h
  refine ⟨rfl, fun hv => ⟨nodup_assetIds_upsert hv.nodup, ?_, fun e he => ?_⟩, fun a ha => ?_⟩
  · dsimp only
    rw [assetIds_upsert]
    split
    · exact hv.notLending
    · intro hmem
      rcases List.mem_append.mp hmem with hold | hnew
      · exact hv.notLending hold
      · exact hlending (List.mem_singleton.mp hnew).symm
  · rcases mem_upsert he with rfl | hold
    · exact hasset
    · exact hv.valid e hold
  · rw [supports_iff] at ha ⊢
    dsimp only
    rw [assetIds_upsert]
    split
    · exact ha
    · exact List.mem_append_left _ ha

/-- The custodian's update keeps every supported asset that a borrower holds. -/
theorem updateSupportedCollateral_spec {s s' : PoolStorage} {info : MessageInfo}
    {toUpdate : List CollateralAssetV1} {toRemove : List String} {res : Response}
    (h : updateSupportedCollateral s info toUpdate toRemove = .ok (s', res)) :
    ∃ c', info.funds = [] ∧
      c' = { s.contract with supportedCollateralAssets := c'.supportedCollateralAssets } ∧
      (SupportedListValid s.contract → SupportedListValid c') ∧
      (∀ a, s.contract.supports a = true → c'.supports a = true ∨ a ∈ toRemove) ∧
      (∀ a ∈ toRemove, s.contract.supports a = true →
        (s.getTotalCollateralByAsset a).val = 0) ∧
      s' = s.setContractStateV1 c' ∧
      res.messages = [] := by
  simp only [updateSupportedCollateral, bind_eq_ok, ensure_eq_ok, exists_const, forM_eq_ok,
    checkNotInUse, pure_eq_ok, Prod.mk.injEq] at h
  obtain ⟨-, -, hfunds, -, -, c, hc, hfree, rfl, rfl⟩ := h
  have hloop := foldlM_ok_induct
    (fun _ b => b = { s.contract with supportedCollateralAssets := b.supportedCollateralAssets } ∧
      (SupportedListValid s.contract → SupportedListValid b) ∧
      ∀ a, s.contract.supports a = true → b.supports a = true)
    (fun _ asset b b' hb hstep => by
      obtain ⟨hb, hvalid, hsup⟩ := hb
      obtain ⟨hb', hvalid', hsup'⟩ := updateCollateralAsset_spec hstep
      refine ⟨?_, fun hv => hvalid' (hvalid hv), fun a ha => hsup' a (hsup a ha)⟩
      rw [hb', hb]) ⟨rfl, id, fun _ => id⟩ hc
  obtain ⟨hframe, hvalid, hsup⟩ := hloop
  refine ⟨_, hfunds, ?_, ?_, ?_, ?_, rfl, ?_⟩
  · dsimp only
    rw [hframe]
  · intro hv
    have hsub : (assetIds (c.supportedCollateralAssets.filter fun e =>
        !(toRemove.filter fun id => c.supports id).contains e.assetId)).Sublist
        (assetIds c.supportedCollateralAssets) := List.filter_sublist.map _
    exact ⟨(hvalid hv).nodup.sublist hsub,
      fun hmem => (hvalid hv).notLending (hsub.subset hmem),
      fun e he => (hvalid hv).valid e (List.mem_of_mem_filter he)⟩
  · intro a ha
    by_cases hr : a ∈ toRemove
    · exact Or.inr hr
    · left
      have hmem := supports_iff.mp (hsup a ha)
      rw [supports_iff]
      obtain ⟨e, he, rfl⟩ := List.mem_map.mp hmem
      exact List.mem_map.mpr ⟨e, List.mem_filter.mpr ⟨he, by simp [hr]⟩, rfl⟩
  · intro a hr ha
    have hzero := hfree a (List.mem_filter.mpr ⟨hr, by simpa using hsup a ha⟩)
    simpa [PoolStorage.isCollateralAssetInUse] using hzero
  · unfold addNames
    split <;> split <;> rfl

/-! ## Contract configuration -/

/-- The fields that the custodian may change; a missing field stays. -/
structure UpdateContractConfigParams where
  marginRate : Option Decimal256
  liquidationRate : Option Decimal256
  liquidationBonusRate : Option Decimal256
  priceOracleAddress : Option String
  minLend : Option Uint128
  minBorrow : Option Uint128
  maxBorrowerCollateralTypes : Option Nat
  commitMarketId : Option Nat
  badDebtLossAllocation : Option BadDebtLossAllocation
  custodian : Option String
  liquidator : Option String
  maxLiquidationStalenessSeconds : Option Nat
  liquidationAccess : Option LiquidationAccess

/-- Whether any field is present. -/
def UpdateContractConfigParams.hasAny (p : UpdateContractConfigParams) : Bool :=
  p.marginRate.isSome || p.liquidationRate.isSome || p.liquidationBonusRate.isSome ||
    p.priceOracleAddress.isSome || p.minLend.isSome || p.minBorrow.isSome ||
    p.maxBorrowerCollateralTypes.isSome || p.commitMarketId.isSome ||
    p.badDebtLossAllocation.isSome || p.custodian.isSome || p.liquidator.isSome ||
    p.maxLiquidationStalenessSeconds.isSome || p.liquidationAccess.isSome

/-- The new value of a field: the old one when the message has none, and the
message's after `check`. -/
def newValue {α β : Type} (update : Option α) (old : β) (check : α → ContractResult β) :
    ContractResult β :=
  match update with
  | none => return old
  | some v => check v

/-- A rate that may only go up. -/
def checkLiquidationRate (old v : Decimal256) : ContractResult Decimal256 := do
  ensure (old ≤ v) (illegalArgument
    ("liquidation_rate may only be increased (not decreased) to avoid making previously safe " ++
      "positions liquidatable"))
  return v

/-- The address of the oracle, trimmed and validated. -/
def checkOracleAddress (deps : Deps) (s : String) : ContractResult Addr := do
  ensure (trim s ≠ "") (illegalArgument "price_oracle_address cannot be empty")
  deps.addrValidate (trim s)

/-- A minimum that must not be zero. -/
def checkAtLeastOne (field : String) (v : Nat) : ContractResult Unit :=
  ensure (v ≠ 0) (illegalArgument s!"{field} must be at least 1")

/-- A minimum is at least one. -/
def checkMinAmount (field : String) (v : Uint128) : ContractResult Uint128 := do
  checkAtLeastOne field v.val
  return v

/-- A borrower may hold at least one asset. -/
def checkMaxTypes (v : Nat) : ContractResult Nat := do
  checkAtLeastOne "max_borrower_collateral_types" v
  return v

/-- The allocation may change only while no deficit is booked. -/
def checkAllocation (reserve : ReserveStateV1) (old v : BadDebtLossAllocation) :
    ContractResult BadDebtLossAllocation := do
  ensure (v = old ∨ reserve.deficitUnderlying.val = 0) (illegalArgument
    ("cannot change bad_debt_loss_allocation while deficit_underlying > 0; clear the deficit " ++
      "with EliminateDeficit or SocializeDeficit first"))
  return v

/-- The address of a role, trimmed and validated. -/
def checkRoleAddress (deps : Deps) (s : String) : ContractResult (Option Addr) := do
  let addr ← deps.addrValidate (trim s)
  return some addr

/-- Apply the fields that are present, in the order of the source. -/
def applyConfigParams (deps : Deps) (reserve : ReserveStateV1) (contract : ContractStateV1)
    (p : UpdateContractConfigParams) : ContractResult ContractStateV1 := do
  let marginRate ← newValue p.marginRate contract.marginRate pure
  let liquidationRate ← newValue p.liquidationRate contract.liquidationRate
    (checkLiquidationRate contract.liquidationRate)
  let liquidationBonusRate ← newValue p.liquidationBonusRate contract.liquidationBonusRate pure
  let priceOracleAddress ← newValue p.priceOracleAddress contract.priceOracleAddress
    (checkOracleAddress deps)
  let minLend ← newValue p.minLend contract.minLend (checkMinAmount "min_lend")
  let minBorrow ← newValue p.minBorrow contract.minBorrow (checkMinAmount "min_borrow")
  let maxBorrowerCollateralTypes ← newValue p.maxBorrowerCollateralTypes
    contract.maxBorrowerCollateralTypes checkMaxTypes
  let commitMarketId ← newValue p.commitMarketId contract.commitMarketId
    (fun id => return some id)
  let badDebtLossAllocation ← newValue p.badDebtLossAllocation contract.badDebtLossAllocation
    (checkAllocation reserve contract.badDebtLossAllocation)
  let custodian ← newValue p.custodian contract.custodian (checkRoleAddress deps)
  let liquidator ← newValue p.liquidator contract.liquidator (checkRoleAddress deps)
  let maxLiquidationStalenessSeconds ← newValue p.maxLiquidationStalenessSeconds
    contract.maxLiquidationStalenessSeconds pure
  let liquidationAccess ← newValue p.liquidationAccess contract.liquidationAccess pure
  return { contract with
    marginRate, liquidationRate, liquidationBonusRate, priceOracleAddress, minLend, minBorrow,
    maxBorrowerCollateralTypes, commitMarketId, badDebtLossAllocation, custodian, liquidator,
    maxLiquidationStalenessSeconds, liquidationAccess }

/-- A product of the bonus and the margin that is not below one, or does not
fit. -/
def checkBonusTimesMargin (bonus margin : Decimal256) (message : String) :
    ContractResult Unit :=
  match bonus.checkedMul margin with
  | .error _ => throw (illegalArgument "liquidation_bonus_rate * margin_rate overflow")
  | .ok product => ensure (product < Decimal256.one) (illegalArgument message)

/-- The bounds on the three rates, which instantiation shares. -/
def checkRates (marginRate liquidationRate liquidationBonusRate : Decimal256)
    (impossibleMessage : String) : ContractResult Unit := do
  ensure (marginRate.isZero = false) (illegalArgument "margin_rate must be greater than zero")
  ensure (liquidationRate.isZero = false)
    (illegalArgument "liquidation_rate must be greater than zero")
  ensure (liquidationRate ≤ Decimal256.one)
    (illegalArgument "liquidation_rate must be less than or equal to 1")
  ensure (marginRate < liquidationRate)
    (illegalArgument "margin_rate must be less than liquidation_rate")
  ensure (Decimal256.one < liquidationBonusRate)
    (illegalArgument "liquidation_bonus_rate must be greater than 1 (e.g. 1.02 for 2%)")
  checkBonusTimesMargin liquidationBonusRate marginRate impossibleMessage

/-- The staleness of liquidation prices is at most a day. -/
def checkStaleness (maxLiquidationStalenessSeconds : Nat) : ContractResult Unit :=
  ensure (maxLiquidationStalenessSeconds ≤ maxAllowedLiquidationStalenessSeconds)
    (illegalArgument "max_liquidation_staleness_seconds exceeds maximum")

/-- The custodian changes the configuration, field by field, under the cross checks. -/
def updateContractConfig (deps : Deps) (store : PoolStorage) (info : MessageInfo)
    (params : UpdateContractConfigParams) : ContractResult (PoolStorage × Response) := do
  assertCustodian store.contract info.sender
    "Only the contract custodian may update contract configuration"
  ensure (info.funds = []) noFundsAccepted
  ensure (params.hasAny = true) (illegalArgument "At least one config field must be provided")
  let contract ← applyConfigParams deps store.reserve store.contract params
  checkRates contract.marginRate contract.liquidationRate contract.liquidationBonusRate
    "liquidation_bonus_rate * margin_rate must be < 1 (otherwise liquidations are impossible)"
  checkStaleness contract.maxLiquidationStalenessSeconds
  ensurePermissionlessConfig contract.liquidationAccess contract.maxLiquidationStalenessSeconds
    contract.badDebtLossAllocation store.reserve.deficitUnderlying.val
  let res := Response.new.addText "action" "update_contract_config"
    |>.addAttribute "contract_state_json" (.contractState contract)
  return (store.setContractStateV1 contract, res)

/-- The bounds on the three rates. -/
structure RatesValid (marginRate liquidationRate liquidationBonusRate : Decimal256) : Prop where
  margin_pos : 0 < marginRate.atomics
  margin_lt : marginRate < liquidationRate
  liquidation_le : liquidationRate ≤ Decimal256.one
  bonus_gt : Decimal256.one < liquidationBonusRate
  bonus_margin : liquidationBonusRate.atomics * marginRate.atomics / decimalFractional <
    decimalFractional

theorem checkRates_ok {m l b : Decimal256} {message : String} {u : Unit}
    (h : checkRates m l b message = .ok u) : RatesValid m l b := by
  simp only [checkRates, bind_eq_ok, ensure_eq_ok, exists_const] at h
  obtain ⟨hm, -, hl, hml, hb, hbm⟩ := h
  refine ⟨?_, hml, hl, hb, ?_⟩
  · have hne : m.atomics ≠ 0 := by simpa [Decimal256.isZero] using hm
    omega
  · unfold checkBonusTimesMargin at hbm
    split at hbm
    · cases hbm
    · rename_i product hproduct
      rw [ensure_eq_ok, Decimal256.lt_def] at hbm
      rw [← Decimal256.checkedMul_eq_ok.mp hproduct]
      exact hbm

theorem ensurePermissionlessConfig_ok {access : LiquidationAccess} {staleness deficit : Nat}
    {allocation : BadDebtLossAllocation} {u : Unit}
    (h : ensurePermissionlessConfig access staleness allocation deficit = .ok u)
    (ha : access = .permissionless) :
    staleness ≤ maxPermissionlessLiquidationStalenessSeconds ∧
      allocation = .immediateLiquidityIndexHaircut ∧ deficit = 0 := by
  subst ha
  simp only [ensurePermissionlessConfig, bind_eq_ok, ensure_eq_ok, exists_const] at h
  exact h

theorem newValue_eq_ok {α β : Type} {update : Option α} {old new : β}
    {check : α → ContractResult β} :
    newValue update old check = .ok new ↔
      (update = none ∧ new = old) ∨ ∃ v, update = some v ∧ check v = .ok new := by
  cases update with
  | none =>
    simp only [newValue, pure_eq_ok, true_and, reduceCtorEq, false_and, exists_false, or_false]
    exact eq_comm
  | some v => simp [newValue]

/-- What an update of the configuration cannot do: touch the fields that have no
parameter, lower the liquidation rate, or move the allocation under a deficit. -/
theorem applyConfigParams_spec {deps : Deps} {r : ReserveStateV1} {c c' : ContractStateV1}
    {p : UpdateContractConfigParams} (h : applyConfigParams deps r c p = .ok c') :
    c' = { c with
      marginRate := c'.marginRate
      liquidationRate := c'.liquidationRate
      liquidationBonusRate := c'.liquidationBonusRate
      priceOracleAddress := c'.priceOracleAddress
      minLend := c'.minLend
      minBorrow := c'.minBorrow
      maxBorrowerCollateralTypes := c'.maxBorrowerCollateralTypes
      commitMarketId := c'.commitMarketId
      badDebtLossAllocation := c'.badDebtLossAllocation
      custodian := c'.custodian
      liquidator := c'.liquidator
      maxLiquidationStalenessSeconds := c'.maxLiquidationStalenessSeconds
      liquidationAccess := c'.liquidationAccess } ∧
    c.liquidationRate ≤ c'.liquidationRate ∧
    (c'.badDebtLossAllocation = c.badDebtLossAllocation ∨ r.deficitUnderlying.val = 0) ∧
    (p.priceOracleAddress = none → c'.priceOracleAddress = c.priceOracleAddress) := by
  simp only [applyConfigParams, bind_eq_ok, pure_eq_ok] at h
  obtain ⟨margin, -, liq, hliq, bonus, -, oracle, horacle, _, -, _, -, _, -, _, -, alloc, halloc,
    _, -, _, -, _, -, _, -, rfl⟩ := h
  refine ⟨rfl, ?_, ?_, ?_⟩
  · rcases newValue_eq_ok.mp hliq with ⟨-, rfl⟩ | ⟨v, -, hv⟩
    · exact Nat.le_refl _
    · simp only [checkLiquidationRate, bind_eq_ok, ensure_eq_ok, exists_const, pure_eq_ok] at hv
      exact hv.2 ▸ hv.1
  · rcases newValue_eq_ok.mp halloc with ⟨-, rfl⟩ | ⟨v, -, hv⟩
    · exact Or.inl rfl
    · simp only [checkAllocation, bind_eq_ok, ensure_eq_ok, exists_const, pure_eq_ok] at hv
      exact hv.2 ▸ hv.1
  · intro hnone
    rcases newValue_eq_ok.mp horacle with ⟨-, rfl⟩ | ⟨v, hv, -⟩
    · rfl
    · rw [hnone] at hv
      cases hv

/-- The market can be replaced, and not taken away. -/
theorem applyConfigParams_market {deps : Deps} {r : ReserveStateV1} {c c' : ContractStateV1}
    {p : UpdateContractConfigParams} (h : applyConfigParams deps r c p = .ok c')
    (hmarket : c.commitMarketId.isSome = true) : c'.commitMarketId.isSome = true := by
  simp only [applyConfigParams, bind_eq_ok, pure_eq_ok] at h
  obtain ⟨_, -, _, -, _, -, _, -, _, -, _, -, _, -, market, hnew, _, -, _, -, _, -, _, -, _, -,
    rfl⟩ := h
  show market.isSome = true
  rcases newValue_eq_ok.mp hnew with ⟨-, rfl⟩ | ⟨id, -, hid⟩
  · exact hmarket
  · rw [← pure_eq_ok.mp hid]
    rfl

theorem updateContractConfig_spec {deps : Deps} {s s' : PoolStorage} {info : MessageInfo}
    {p : UpdateContractConfigParams} {res : Response}
    (h : updateContractConfig deps s info p = .ok (s', res)) :
    ∃ c', info.funds = [] ∧
      applyConfigParams deps s.reserve s.contract p = .ok c' ∧
      RatesValid c'.marginRate c'.liquidationRate c'.liquidationBonusRate ∧
      c'.maxLiquidationStalenessSeconds ≤ maxAllowedLiquidationStalenessSeconds ∧
      ensurePermissionlessConfig c'.liquidationAccess c'.maxLiquidationStalenessSeconds
        c'.badDebtLossAllocation s.reserve.deficitUnderlying.val = .ok () ∧
      s' = s.setContractStateV1 c' ∧
      res.messages = [] := by
  simp only [updateContractConfig, bind_eq_ok, ensure_eq_ok, exists_const, checkStaleness,
    pure_eq_ok, Prod.mk.injEq] at h
  obtain ⟨-, -, hfunds, -, c', hc', _, hrates, hstale, _, hperm, rfl, rfl⟩ := h
  exact ⟨c', hfunds, hc', checkRates_ok hrates, hstale, hperm, rfl, rfl⟩

/-! ## Operational state and required attributes -/

/-- The owner or the custodian freezes, pauses or reopens the pool. -/
def setOperationalState (store : PoolStorage) (info : MessageInfo) (state : OperationalState) :
    ContractResult (PoolStorage × Response) := do
  assertOwnerOrCustodian store info.sender
    "Only the contract owner or custodian may set operational state"
  ensure (info.funds = []) noFundsAccepted
  let res := Response.new.addText "action" "set_operational_state" |>.addText "state" state.asStr
  return (store.setContractStateV1 { store.contract with operationalState := state }, res)

/-- The length of an attribute list, for the role named. -/
def checkAttrCount (role : String) (attrs : List String) : ContractResult Unit :=
  ensure (attrs.length ≤ maxLenderBorrowerRequiredAttrs) (illegalArgument
    s!"No more than [{maxLenderBorrowerRequiredAttrs}] {role} required attributes allowed")

/-- The checks that the setters of both attribute lists share. -/
def checkRequiredAttrs (contract : ContractStateV1) (info : MessageInfo) (role : String)
    (attrs : List String) : ContractResult Unit := do
  assertCustodian contract info.sender
    s!"Only the contract custodian may set {role} required attributes"
  ensure (info.funds = []) noFundsAccepted
  checkAttrCount role attrs
  validateRequiredAttrPatterns attrs

/-- The custodian changes the attributes that lenders need. -/
def setLenderRequiredAttrs (store : PoolStorage) (info : MessageInfo)
    (lenderRequiredAttrs : List String) : ContractResult (PoolStorage × Response) := do
  checkRequiredAttrs store.contract info "lender" lenderRequiredAttrs
  let res := Response.new.addText "action" "set_lender_required_attrs"
    |>.addAttribute "lender_required_attrs_json" (.names lenderRequiredAttrs)
  return (store.setContractStateV1 { store.contract with lenderRequiredAttrs }, res)

/-- The custodian changes the attributes that borrowers need. -/
def setBorrowerRequiredAttrs (store : PoolStorage) (info : MessageInfo)
    (borrowerRequiredAttrs : List String) : ContractResult (PoolStorage × Response) := do
  checkRequiredAttrs store.contract info "borrower" borrowerRequiredAttrs
  let res := Response.new.addText "action" "set_borrower_required_attrs"
    |>.addAttribute "borrower_required_attrs_json" (.names borrowerRequiredAttrs)
  return (store.setContractStateV1 { store.contract with borrowerRequiredAttrs }, res)

theorem setOperationalState_spec {s s' : PoolStorage} {info : MessageInfo}
    {state : OperationalState} {res : Response}
    (h : setOperationalState s info state = .ok (s', res)) :
    info.funds = [] ∧ s' = s.setContractStateV1 { s.contract with operationalState := state } ∧
      res.messages = [] := by
  simp only [setOperationalState, bind_eq_ok, ensure_eq_ok, exists_const, pure_eq_ok,
    Prod.mk.injEq] at h
  obtain ⟨-, -, hfunds, rfl, rfl⟩ := h
  exact ⟨hfunds, rfl, rfl⟩

theorem setLenderRequiredAttrs_spec {s s' : PoolStorage} {info : MessageInfo}
    {attrs : List String} {res : Response}
    (h : setLenderRequiredAttrs s info attrs = .ok (s', res)) :
    info.funds = [] ∧
      s' = s.setContractStateV1 { s.contract with lenderRequiredAttrs := attrs } ∧
      res.messages = [] := by
  simp only [setLenderRequiredAttrs, checkRequiredAttrs, bind_eq_ok, ensure_eq_ok, exists_const,
    pure_eq_ok, Prod.mk.injEq] at h
  obtain ⟨-, ⟨-, -, hfunds, -⟩, rfl, rfl⟩ := h
  exact ⟨hfunds, rfl, rfl⟩

theorem setBorrowerRequiredAttrs_spec {s s' : PoolStorage} {info : MessageInfo}
    {attrs : List String} {res : Response}
    (h : setBorrowerRequiredAttrs s info attrs = .ok (s', res)) :
    info.funds = [] ∧
      s' = s.setContractStateV1 { s.contract with borrowerRequiredAttrs := attrs } ∧
      res.messages = [] := by
  simp only [setBorrowerRequiredAttrs, checkRequiredAttrs, bind_eq_ok, ensure_eq_ok,
    exists_const, pure_eq_ok, Prod.mk.injEq] at h
  obtain ⟨-, ⟨-, -, hfunds, -⟩, rfl, rfl⟩ := h
  exact ⟨hfunds, rfl, rfl⟩

/-! ## Commit rules -/

/-- What the two commit rules share: the owner names an address, and a rule can
be switched on only when there is a market to commit to. -/
def checkCommitRule (deps : Deps) (store : PoolStorage) (info : MessageInfo) (address : String)
    (require : Option Bool) (notOwnerMessage noMarketMessage : String) :
    ContractResult Addr := do
  store.ownership.assertOwner info.sender notOwnerMessage
  ensure (info.funds = []) noFundsAccepted
  let addr ← deps.addrValidate (trim address)
  ensure (require ≠ some true ∨ store.contract.commitMarketId.isSome = true)
    (illegalArgument noMarketMessage)
  return addr

/-- The attributes of a ruling. -/
def commitRuleResponse (action address : String) (require : Option Bool) : Response :=
  Response.new.addText "action" action
    |>.addText "address" address
    |>.addText "require" ((require.map toString).getD "default")

/-- The owner rules whether payments to a borrower are committed. -/
def setBorrowerRequireCommit (deps : Deps) (store : PoolStorage) (info : MessageInfo)
    (address : String) (require : Option Bool) : ContractResult (PoolStorage × Response) := do
  let borrower ← checkCommitRule deps store info address require
    "Only the contract owner may set borrower commit rules"
    "Commit market must be configured (commit_market_id) before requiring commit"
  return (store.setBorrowerRequireCommit borrower (require.getD false),
    commitRuleResponse "set_borrower_require_commit" borrower require)

/-- The owner rules whether payouts to a lender are committed. -/
def setLenderRequireCommitOnExit (deps : Deps) (store : PoolStorage) (info : MessageInfo)
    (address : String) (require : Option Bool) : ContractResult (PoolStorage × Response) := do
  let lender ← checkCommitRule deps store info address require
    "Only the contract owner may set lender commit-on-exit rules"
    "Commit market must be configured (commit_market_id) before requiring commit on exit"
  return (store.setLenderRequireCommitOnExit lender (require.getD false),
    commitRuleResponse "set_lender_require_commit_on_exit" lender require)

theorem setBorrowerRequireCommit_spec {deps : Deps} {s s' : PoolStorage} {info : MessageInfo}
    {address : String} {require : Option Bool} {res : Response}
    (h : setBorrowerRequireCommit deps s info address require = .ok (s', res)) :
    info.funds = [] ∧
      (require = some true → s.contract.commitMarketId.isSome = true) ∧
      s' = s.setBorrowerRequireCommit (trim address) (require.getD false) ∧
      res.messages = [] := by
  simp only [setBorrowerRequireCommit, checkCommitRule, Ownership.assertOwner, bind_eq_ok,
    ensure_eq_ok, exists_const, addrValidate_eq_ok, pure_eq_ok, Prod.mk.injEq] at h
  obtain ⟨addr, ⟨-, hfunds, _, ⟨-, rfl⟩, hmarket, rfl⟩, rfl, rfl⟩ := h
  exact ⟨hfunds, fun hr => hmarket.resolve_left fun hne => hne hr, rfl, rfl⟩

theorem setLenderRequireCommitOnExit_spec {deps : Deps} {s s' : PoolStorage}
    {info : MessageInfo} {address : String} {require : Option Bool} {res : Response}
    (h : setLenderRequireCommitOnExit deps s info address require = .ok (s', res)) :
    info.funds = [] ∧
      (require = some true → s.contract.commitMarketId.isSome = true) ∧
      s' = s.setLenderRequireCommitOnExit (trim address) (require.getD false) ∧
      res.messages = [] := by
  simp only [setLenderRequireCommitOnExit, checkCommitRule, Ownership.assertOwner, bind_eq_ok,
    ensure_eq_ok, exists_const, addrValidate_eq_ok, pure_eq_ok, Prod.mk.injEq] at h
  obtain ⟨addr, ⟨-, hfunds, _, ⟨-, rfl⟩, hmarket, rfl⟩, rfl, rfl⟩ := h
  exact ⟨hfunds, fun hr => hmarket.resolve_left fun hne => hne hr, rfl, rfl⟩

/-! ## Directed sales -/

/-- The adjustments without their zeros. -/
def normalizeAdjustments (adjustments : Std.ExtTreeMap String Int128) :
    Std.ExtTreeMap String Int128 :=
  adjustments.filter fun _ amount => amount.val != 0

/-- The outstanding amounts, and the changes that took effect. -/
structure SaleAdjustment where
  outstanding : Amounts
  applied : Std.ExtTreeMap String Int128

/-- More of an asset is offered, up to what the borrower holds. -/
def increaseOffer (contract : ContractStateV1) (balances : Amounts) (acc : SaleAdjustment)
    (assetId : String) (delta : Int128) : ContractResult SaleAdjustment := do
  ensure (contract.supports assetId = true)
    (illegalArgument s!"Unsupported collateral asset: {assetId}")
  let listed := amountOf acc.outstanding assetId
  let newAmt ← okOr (Uint.ofNat? 128 (listed.val + delta.val.toNat))
    (illegalArgument s!"Outstanding overflow for {assetId}")
  let bal := amountOf balances assetId
  ensure (newAmt.val ≤ bal.val) (illegalArgument
    s!"Insufficient collateral for {assetId}: have {bal}, requested {newAmt}")
  return { outstanding := acc.outstanding.insert assetId newAmt
           applied := acc.applied.insert assetId delta }

theorem neg_toNat_bounded {d : Int} (take : Nat) (hd : -2 ^ 127 ≤ d)
    (hle : take ≤ (-d).toNat) : -2 ^ 127 ≤ -(take : Int) ∧ -(take : Int) < 2 ^ 127 := by
  omega

/-- Less of an asset is offered, and never less than nothing. -/
def decreaseOffer (acc : SaleAdjustment) (assetId : String) (delta : Int128) : SaleAdjustment :=
  let mag := (-delta.val).toNat
  let listed := amountOf acc.outstanding assetId
  let take := min listed.val mag
  if take = 0 then { acc with outstanding := acc.outstanding.erase assetId }
  else
    let left := listed.val - take
    { outstanding :=
        if left = 0 then acc.outstanding.erase assetId
        else acc.outstanding.insert assetId
          ⟨left, Nat.lt_of_le_of_lt (Nat.sub_le _ _) listed.isLt⟩
      applied := acc.applied.insert assetId
        ⟨-(take : Int), neg_toNat_bounded take delta.isBounded.1 (Nat.min_le_right _ _)⟩ }

/-- One round of the loop over the adjustments. -/
def adjustEntry (contract : ContractStateV1) (balances : Amounts) (acc : SaleAdjustment)
    (entry : String × Int128) : ContractResult SaleAdjustment := do
  ensure (entry.2.val ≠ -2 ^ 127)
    (illegalArgument s!"Adjustment magnitude too large for {entry.1}")
  if 0 < entry.2.val then increaseOffer contract balances acc entry.1 entry.2
  else return decreaseOffer acc entry.1 entry.2

/-- The attributes of an adjustment. -/
def adjustResponse (borrower : Addr) (applied : Std.ExtTreeMap String Int128)
    (expiresAt : String) (version : Uint64) : Response :=
  Response.new.addText "action" "adjust_directed_collateral_sale"
    |>.addText "borrower" borrower
    |>.addAttribute "applied_json" (.signedAmounts applied)
    |>.addText "expires_at" expiresAt
    |>.addText "version" (toString version)

/-- A sale can be listed only with a deadline ahead and a debt to repay. -/
def checkIncreaseAllowed (store : PoolStorage) (env : Env) (borrower : Addr)
    (anyIncrease : Bool) (expiresAt : Timestamp) : ContractResult Unit :=
  if anyIncrease then do
    ensure (env.blockTime.nanos.val < expiresAt.nanos.val)
      (illegalArgument "expires_at must be in the future")
    ensure (0 < (store.getScaledBorrow borrower).val)
      (illegalArgument "Borrower has no debt (cannot list a sale with nothing to repay)")
  else return ()

/-- The deadline of the adjusted offer: the new one if something was added, and
the stored one otherwise. -/
def adjustedExpiry (anyIncrease : Bool) (expiresAt : Timestamp)
    (currentOffer : Option DirectedSaleOfferV1) : ContractResult Timestamp :=
  if anyIncrease then return expiresAt
  else okOr (currentOffer.map (·.expiresAt))
    (illegalState "outstanding directed sale missing expiry")

/-- A borrower changes its offer, if the version is the one it has seen. -/
def adjustDirectedCollateralSale (store : PoolStorage) (env : Env) (info : MessageInfo)
    (adjustments : Std.ExtTreeMap String Int128) (expiresAt : Timestamp) (version : Uint64) :
    ContractResult (PoolStorage × Response) := do
  let contract := store.contract
  ensure (info.funds = []) noFundsAccepted
  let borrower := info.sender
  let expected ← okOr ((store.getDirectedSaleVersion borrower).checkedAdd 1)
    (illegalState "directed sale version overflow")
  ensure (version = expected)
    (illegalArgument s!"version must be {expected}, got {version}")
  let requested := normalizeAdjustments adjustments
  if requested.isEmpty then
    return ((store.clearDirectedSaleOffer borrower).setDirectedSaleVersion borrower version,
      adjustResponse borrower ∅ "0" version)
  else
    let anyIncrease := requested.toList.any fun entry => decide (0 < entry.2.val)
    checkIncreaseAllowed store env borrower anyIncrease expiresAt
    let currentOffer := store.getDirectedSaleOffer borrower
    let outstanding := (currentOffer.map (·.amounts)).getD ∅
    let balances := store.getBorrowerCollateral borrower
    let adjusted ← requested.toList.foldlM (adjustEntry contract balances) ⟨outstanding, ∅⟩
    if adjusted.outstanding.isEmpty then
      return ((store.clearDirectedSaleOffer borrower).setDirectedSaleVersion borrower version,
        adjustResponse borrower adjusted.applied "0" version)
    else
      let offerExpiresAt ← adjustedExpiry anyIncrease expiresAt currentOffer
      let store := store.setDirectedSaleOffer borrower ⟨adjusted.outstanding, offerExpiresAt⟩
      return (store.setDirectedSaleVersion borrower version,
        adjustResponse borrower adjusted.applied (toString offerExpiresAt.nanos) version)

/-- An adjustment writes the sender's offer and version only. -/
theorem adjustDirectedCollateralSale_spec {s s' : PoolStorage} {env : Env} {info : MessageInfo}
    {adjustments : Std.ExtTreeMap String Int128} {expiresAt : Timestamp} {version : Uint64}
    {res : Response}
    (h : adjustDirectedCollateralSale s env info adjustments expiresAt version =
      .ok (s', res)) :
    info.funds = [] ∧ res.messages = [] ∧
      ((s' = (s.clearDirectedSaleOffer info.sender).setDirectedSaleVersion info.sender version) ∨
        ∃ offer, s' =
          (s.setDirectedSaleOffer info.sender offer).setDirectedSaleVersion info.sender
            version) := by
  simp only [adjustDirectedCollateralSale, bind_eq_ok, ensure_eq_ok, exists_const] at h
  obtain ⟨hfunds, -, -, -, h⟩ := h
  refine ⟨hfunds, ?_⟩
  split at h
  · cases h
    exact ⟨rfl, Or.inl rfl⟩
  · simp only [bind_eq_ok] at h
    obtain ⟨-, -, adjusted, -, h⟩ := h
    split at h
    · cases h
      exact ⟨rfl, Or.inl rfl⟩
    · simp only [bind_eq_ok, pure_eq_ok, Prod.mk.injEq] at h
      obtain ⟨expiry, -, rfl, rfl⟩ := h
      exact ⟨rfl, Or.inr ⟨_, rfl⟩⟩

end DemocratizedPrime
