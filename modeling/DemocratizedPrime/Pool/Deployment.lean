import DemocratizedPrime.Pool.Contract

/-!
# A new pool

`instantiate` is the only way a pool's storage begins, and with a repo token that
is created along with the pool, `reply` completes it in the same transaction.
`DeployedAt t s` says that `s` is such a storage, made at the time `t`.

`FreshPool` collects what the checks of `instantiate` establish.  The invariants
start from it.
-/

namespace DemocratizedPrime

open Result

/-- A storage that `instantiate` made at a point in time, with the address of a
new repo token filled in or still missing. -/
inductive DeployedAt (t : Timestamp) : PoolStorage → Prop
  | instantiated {deps : Deps} {env : Env} {info : MessageInfo} {msg : InstantiateMsg}
      {s : PoolStorage} {res : Response} (time : env.blockTime = t)
      (h : instantiate deps env info msg = .ok (s, res)) : DeployedAt t s
  | replied {s s' : PoolStorage} {deps : Deps} {created : Except String String}
      {res : Response} (pool : DeployedAt t s) (h : reply deps s created = .ok (s', res)) :
      DeployedAt t s'

/-- What holds of every new pool. -/
structure FreshPool (t : Timestamp) (s : PoolStorage) : Prop where
  reserve : s.reserve = initialReserve t
  scaledBorrow : s.scaledBorrow = ∅
  borrowerCollateral : s.borrowerCollateral = ∅
  totalCollateralByAsset : s.totalCollateralByAsset = ∅
  supported : SupportedListValid s.contract
  rates : RatesValid s.contract.marginRate s.contract.liquidationRate
    s.contract.liquidationBonusRate
  staleness : s.contract.maxLiquidationStalenessSeconds ≤ maxAllowedLiquidationStalenessSeconds
  permissionless : ensurePermissionlessConfig s.contract.liquidationAccess
    s.contract.maxLiquidationStalenessSeconds s.contract.badDebtLossAllocation 0 = .ok ()
  rateParams : s.contract.rateParams.validate = .ok ()

theorem checkSupportedCollateral_ok {d : Denom} {assets : List CollateralAssetV1}
    {seen : List String} {u : Unit} (h : checkSupportedCollateral d assets seen = .ok u) :
    (assetIds assets).Nodup ∧ (∀ id ∈ seen, id ∉ assetIds assets) ∧
      d.name ∉ assetIds assets ∧ ∀ e ∈ assets, e.validate = .ok () := by
  induction assets generalizing seen with
  | nil => simp [assetIds]
  | cons asset rest ih =>
    simp only [checkSupportedCollateral, bind_eq_ok, ensure_eq_ok, exists_const] at h
    obtain ⟨_, hasset, hlending, hseen, hrest⟩ := h
    obtain ⟨hnodup, hfresh, hnot, hvalid⟩ := ih hrest
    have hnew : asset.assetId ∉ seen := by simpa using hseen
    rw [assetIds_cons]
    refine ⟨List.nodup_cons.mpr ⟨hfresh _ List.mem_cons_self, hnodup⟩, fun id hid => ?_, ?_, ?_⟩
    · rw [List.mem_cons, not_or]
      exact ⟨fun he => hnew (he ▸ hid), hfresh id (List.mem_cons_of_mem _ hid)⟩
    · rw [List.mem_cons, not_or]
      exact ⟨fun he => hlending he.symm, hnot⟩
    · rintro e (_ | ⟨_, he⟩)
      · exact hasset
      · exact hvalid e he

theorem instantiate_fresh {deps : Deps} {env : Env} {info : MessageInfo} {msg : InstantiateMsg}
    {s : PoolStorage} {res : Response} (h : instantiate deps env info msg = .ok (s, res)) :
    FreshPool env.blockTime s := by
  simp only [instantiate, bind_eq_ok, Prod.exists, ensure_eq_ok, exists_const, pure_eq_ok,
    Prod.mk.injEq, checkStaleness] at h
  obtain ⟨-, -, _, hparams, _, hsupported, _, _, -, -, -, oracle, -, -, -, -, -, _, hrates, -, -,
    hstale, _, hperm, -, -, -, -, -, -, -, -, custodian, -, liquidator, -, rfl, -⟩ := h
  obtain ⟨hnodup, -, hnot, hvalid⟩ := checkSupportedCollateral_ok hsupported
  exact {
    reserve := rfl
    scaledBorrow := rfl
    borrowerCollateral := rfl
    totalCollateralByAsset := rfl
    supported := ⟨hnodup, hnot, hvalid⟩
    rates := checkRates_ok hrates
    staleness := hstale
    permissionless := hperm
    rateParams := hparams }

/-- The reply of the new repo token sets its address. -/
theorem reply_spec {deps : Deps} {s s' : PoolStorage} {created : Except String String}
    {res : Response} (h : reply deps s created = .ok (s', res)) :
    ∃ addr, created = .ok addr ∧ s.contract.repoTokenCw20Address = none ∧
      s' = s.setContractStateV1 { s.contract with repoTokenCw20Address := some (trim addr) } := by
  unfold reply at h
  split at h
  · cases h
  · simp only [bind_eq_ok, ensure_eq_ok, exists_const, addrValidate_eq_ok, pure_eq_ok,
      Prod.mk.injEq] at h
    obtain ⟨_, ⟨-, rfl⟩, hnone, rfl, -⟩ := h
    exact ⟨_, rfl, hnone, rfl⟩

theorem DeployedAt.fresh {t : Timestamp} {s : PoolStorage} (h : DeployedAt t s) :
    FreshPool t s := by
  induction h with
  | instantiated time h =>
    rw [← time]
    exact instantiate_fresh h
  | replied _ h ih =>
    obtain ⟨addr, -, -, rfl⟩ := reply_spec h
    exact ⟨ih.reserve, ih.scaledBorrow, ih.borrowerCollateral, ih.totalCollateralByAsset,
      ⟨ih.supported.nodup, ih.supported.notLending, ih.supported.valid⟩, ih.rates, ih.staleness,
      ih.permissionless, ih.rateParams⟩

end DemocratizedPrime
