import DemocratizedPrime.Pool.Replay

/-!
# The configuration and the deficit

A deficit is booked by a liquidation, while the settings that restrict it are
edited by a message with thirteen optional fields.  `ConfigSafety` is what the
two keep together: a deficit goes with the deferred allocation and the named
liquidator, and permissionless liquidation goes with the immediate haircut and a
short price window.

Three kinds of steps matter.  A new configuration passes the checks of the update
whichever fields it names (`ConfigSafety.configured`).  A booking adds to the
deficit under the deferred allocation only (`ConfigSafety.booked`).  Every other
step keeps the settings and does not raise the deficit (`ConfigSafety.congr`).
-/

namespace DemocratizedPrime

open Result Transitions

/-- What the checks of every configuration change keep true. -/
structure ConfigSafety (s : PoolStorage) : Prop where
  deficit : 0 < s.reserve.deficitUnderlying.val →
    s.contract.badDebtLossAllocation = .deferredToDeficit ∧
      s.contract.liquidationAccess = .liquidatorOnly
  permissionless : s.contract.liquidationAccess = .permissionless →
    s.contract.badDebtLossAllocation = .immediateLiquidityIndexHaircut ∧
      s.contract.maxLiquidationStalenessSeconds ≤ maxPermissionlessLiquidationStalenessSeconds ∧
      s.reserve.deficitUnderlying.val = 0
  rates : RatesValid s.contract.marginRate s.contract.liquidationRate
    s.contract.liquidationBonusRate
  staleness : s.contract.maxLiquidationStalenessSeconds ≤ maxAllowedLiquidationStalenessSeconds

namespace ConfigSafety

variable {s s' : PoolStorage}

theorem fresh {t : Timestamp} (h : FreshPool t s) : ConfigSafety s := by
  have hzero : s.reserve.deficitUnderlying.val = 0 := by
    rw [h.reserve]
    rfl
  refine ⟨fun hpos => by omega, fun haccess => ?_, h.rates, h.staleness⟩
  obtain ⟨hstale, halloc, -⟩ := ensurePermissionlessConfig_ok h.permissionless haccess
  exact ⟨halloc, hstale, hzero⟩

/-- A step that keeps the settings and does not raise the deficit keeps the
invariant. -/
theorem congr (h : ConfigSafety s)
    (hrates : (s'.contract.marginRate, s'.contract.liquidationRate,
        s'.contract.liquidationBonusRate) =
      (s.contract.marginRate, s.contract.liquidationRate, s.contract.liquidationBonusRate))
    (halloc : s'.contract.badDebtLossAllocation = s.contract.badDebtLossAllocation)
    (haccess : s'.contract.liquidationAccess = s.contract.liquidationAccess)
    (hstale : s'.contract.maxLiquidationStalenessSeconds =
      s.contract.maxLiquidationStalenessSeconds)
    (hdeficit : s'.reserve.deficitUnderlying.val ≤ s.reserve.deficitUnderlying.val) :
    ConfigSafety s' := by
  obtain ⟨hm, hl, hb⟩ : _ ∧ _ ∧ _ := by simpa only [Prod.mk.injEq] using hrates
  refine ⟨fun hpos => ?_, fun hopen => ?_, ?_, ?_⟩
  · rw [halloc, haccess]
    exact h.deficit (by omega)
  · rw [haccess] at hopen
    obtain ⟨h1, h2, h3⟩ := h.permissionless hopen
    rw [halloc, hstale]
    exact ⟨h1, h2, by omega⟩
  · rw [hm, hl, hb]
    exact h.rates
  · rw [hstale]
    exact h.staleness

/-- A step that keeps the configuration and does not raise the deficit. -/
theorem congr_contract (h : ConfigSafety s) (hcontract : s'.contract = s.contract)
    (hdeficit : s'.reserve.deficitUnderlying.val ≤ s.reserve.deficitUnderlying.val) :
    ConfigSafety s' :=
  h.congr (by rw [hcontract]) (by rw [hcontract]) (by rw [hcontract]) (by rw [hcontract]) hdeficit

/-- A new configuration.  While a deficit is booked, the allocation cannot change,
and the access cannot become permissionless. -/
theorem configured (h : ConfigSafety s) {deps : Deps} {p : UpdateContractConfigParams}
    {c' : ContractStateV1} (applied : applyConfigParams deps s.reserve s.contract p = .ok c')
    (rates : RatesValid c'.marginRate c'.liquidationRate c'.liquidationBonusRate)
    (staleness : c'.maxLiquidationStalenessSeconds ≤ maxAllowedLiquidationStalenessSeconds)
    (permissionless : ensurePermissionlessConfig c'.liquidationAccess
      c'.maxLiquidationStalenessSeconds c'.badDebtLossAllocation
      s.reserve.deficitUnderlying.val = .ok ()) : ConfigSafety (s.setContractStateV1 c') := by
  obtain ⟨-, -, halloc, -⟩ := applyConfigParams_spec applied
  refine ⟨fun hpos => ?_, fun hopen => ?_, rates, staleness⟩
  · rw [PoolStorage.setContractStateV1_reserve] at hpos
    rw [PoolStorage.setContractStateV1_contract]
    constructor
    · rcases halloc with hsame | hzero
      · rw [hsame]
        exact (h.deficit hpos).1
      · omega
    · cases haccess : c'.liquidationAccess with
      | liquidatorOnly => rfl
      | permissionless =>
        have hzero := (ensurePermissionlessConfig_ok permissionless haccess).2.2
        omega
  · obtain ⟨hstale, halloc', hzero⟩ := ensurePermissionlessConfig_ok permissionless hopen
    exact ⟨halloc', hstale, hzero⟩

/-- A liquidation.  It raises the deficit under the deferred allocation only, which
a permissionless pool does not have. -/
theorem booked (h : ConfigSafety s) {r r' : ReserveStateV1} {p : LiquidationPlan}
    (hcontract : s'.contract = s.contract) (hreserve : s'.reserve = r')
    (hr : r.deficitUnderlying = s.reserve.deficitUnderlying)
    (hbook : bookRepayment s.contract r p = .ok r') : ConfigSafety s' := by
  obtain ⟨total, ⟨-, -, hr'⟩ | ⟨-, -, ⟨-, hcut⟩ | ⟨halloc, hdeficit, -⟩⟩⟩ :=
    bookRepayment_spec hbook
  · refine h.congr_contract hcontract ?_
    rw [hreserve, hr', hr]
  · refine h.congr_contract hcontract ?_
    rw [hreserve, applyHaircut_frame hcut, hr]
  · have haccess : s.contract.liquidationAccess = .liquidatorOnly := by
      cases hopen : s.contract.liquidationAccess with
      | liquidatorOnly => rfl
      | permissionless =>
        have himm := (h.permissionless hopen).1
        rw [halloc] at himm
        cases himm
    refine ⟨fun _ => ?_, fun hopen => ?_, ?_, ?_⟩
    · rw [hcontract]
      exact ⟨halloc, haccess⟩
    · rw [hcontract, haccess] at hopen
      cases hopen
    · rw [hcontract]
      exact h.rates
    · rw [hcontract]
      exact h.staleness

/-- Every step keeps the invariant. -/
theorem step {e : Event} (h : ConfigSafety s) (hstep : PoolStep s e s') : ConfigSafety s' := by
  cases hstep.effect with
  | neutral _ _ change =>
    refine h.congr ?_ ?_ ?_ ?_ (by rw [change.reserve]) <;> rw [change.contract]
  | updateSupportedCollateral _ _ _ contract =>
    refine h.congr ?_ ?_ ?_ ?_ (Nat.le_refl _) <;>
      rw [PoolStorage.setContractStateV1_contract, contract]
  | updateContractConfig _ _ _ applied rates staleness permissionless =>
    exact h.configured applied rates staleness permissionless
  | updateRateParams _ _ _ accrued =>
    exact h.congr rfl rfl rfl rfl (by simp [accrued.deficitUnderlying])
  | lend _ _ _ accrued => exact h.congr_contract rfl (by simp [accrued.deficitUnderlying])
  | burn _ _ accrued => exact h.congr_contract rfl (by simp [accrued.deficitUnderlying])
  | borrow _ _ _ accrued => exact h.congr_contract rfl (by simp [accrued.deficitUnderlying])
  | repay _ _ _ accrued => exact h.congr_contract rfl (by simp [accrued.deficitUnderlying])
  | addCollateral => exact h.congr_contract rfl (Nat.le_refl _)
  | removeCollateral _ _ _ accrued =>
    refine h.congr_contract rfl (Nat.le_of_eq ?_)
    exact congrArg Uint.val accrued.deficitUnderlying
  | liquidate _ target _ booked =>
    exact h.booked rfl rfl target.accrued.deficitUnderlying booked
  | eliminateFromReserve _ _ _ accrued deficit_eq =>
    rw [accrued.deficitUnderlying] at deficit_eq
    exact h.congr_contract rfl (by simp only [PoolStorage.setReserveStateV1_reserve]; omega)
  | eliminateFromBank _ _ _ accrued _ deficit_eq =>
    rw [accrued.deficitUnderlying] at deficit_eq
    exact h.congr_contract rfl (by simp only [PoolStorage.setReserveStateV1_reserve]; omega)
  | socializeDeficit _ _ _ accrued _ haircut deficit_eq =>
    rw [applyHaircut_frame haircut] at deficit_eq
    dsimp only at deficit_eq
    rw [accrued.deficitUnderlying] at deficit_eq
    exact h.congr_contract rfl (by simp only [PoolStorage.setReserveStateV1_reserve]; omega)
  | withdrawReserve _ _ _ accrued =>
    exact h.congr_contract rfl (by simp [accrued.deficitUnderlying])

end ConfigSafety

theorem Reachable.configSafety {s : PoolStorage} (h : Reachable s) : ConfigSafety s :=
  h.invariant (fun _ _ => ConfigSafety.fresh) (fun _ _ _ => ConfigSafety.step)

/-! ## The rate parameters -/

/-- The rate parameters in use have always passed their checks. -/
theorem Reachable.rateParams_valid {s : PoolStorage} (h : Reachable s) :
    s.contract.rateParams.validate = .ok () := by
  refine h.invariant (fun _ _ hfresh => hfresh.rateParams) ?_
  intro s e s' hvalid hstep
  cases hstep.effect with
  | neutral _ _ change =>
    rw [change.contract]
    exact hvalid
  | updateSupportedCollateral _ _ _ contract =>
    rw [PoolStorage.setContractStateV1_contract, contract]
    exact hvalid
  | updateContractConfig _ _ _ applied =>
    rw [PoolStorage.setContractStateV1_contract, (applyConfigParams_spec applied).1]
    exact hvalid
  | updateRateParams _ _ _ _ valid => exact valid
  | _ => exact hvalid

/-! ## The liquidation rate -/

/-- No step lowers the liquidation rate. -/
theorem PoolStep.liquidationRate_le {s s' : PoolStorage} {e : Event} (h : PoolStep s e s') :
    s.contract.liquidationRate.atomics ≤ s'.contract.liquidationRate.atomics := by
  cases h.effect with
  | neutral _ _ change => rw [change.contract]
  | updateSupportedCollateral _ _ _ contract =>
    rw [PoolStorage.setContractStateV1_contract, contract]
  | updateContractConfig _ _ _ applied => exact (applyConfigParams_spec applied).2.1
  | _ => exact Nat.le_refl _

/-- Nor does a run. -/
theorem liquidationRate_le_of_run {s s' : PoolStorage} {ts : List (Transition PoolStorage Event)}
    (run : Run PoolStep s ts s') :
    s.contract.liquidationRate.atomics ≤ s'.contract.liquidationRate.atomics :=
  run.relates
    (R := fun a b => a.contract.liquidationRate.atomics ≤ b.contract.liquidationRate.atomics)
    (fun _ => Nat.le_refl _) (fun _ _ _ => Nat.le_trans) (fun _ _ _ => PoolStep.liquidationRate_le)

/-! ## The invariant, spelled out -/

/-- In every reachable state a deficit goes with the deferred allocation and the
named liquidator, permissionless liquidation with the immediate haircut, an hour's
staleness and no deficit, and the rates are within their bounds.  From there no
run lowers the liquidation rate. -/
theorem configuration_safe {s : PoolStorage} (h : Reachable s) :
    (0 < s.reserve.deficitUnderlying.val →
        s.contract.badDebtLossAllocation = .deferredToDeficit ∧
          s.contract.liquidationAccess = .liquidatorOnly) ∧
      (s.contract.liquidationAccess = .permissionless →
        s.contract.badDebtLossAllocation = .immediateLiquidityIndexHaircut ∧
          s.contract.maxLiquidationStalenessSeconds ≤ 3600 ∧
          s.reserve.deficitUnderlying.val = 0) ∧
      (0 < s.contract.marginRate.atomics ∧
        s.contract.marginRate.atomics < s.contract.liquidationRate.atomics ∧
        s.contract.liquidationRate.atomics ≤ 10 ^ 18 ∧
        10 ^ 18 < s.contract.liquidationBonusRate.atomics ∧
        s.contract.liquidationBonusRate.atomics * s.contract.marginRate.atomics / 10 ^ 18 <
          10 ^ 18 ∧
        s.contract.maxLiquidationStalenessSeconds ≤ 86400) ∧
      ∀ ts s', Run PoolStep s ts s' →
        s.contract.liquidationRate.atomics ≤ s'.contract.liquidationRate.atomics := by
  have hsafe := h.configSafety
  refine ⟨hsafe.deficit, hsafe.permissionless, ⟨hsafe.rates.margin_pos, hsafe.rates.margin_lt,
    ?_, ?_, ?_, hsafe.staleness⟩, fun ts s' run => liquidationRate_le_of_run run⟩
  · exact hsafe.rates.liquidation_le
  · exact hsafe.rates.bonus_gt
  · exact hsafe.rates.bonus_margin

/-- A pool with a deficit. -/
theorem configuration_safe_deficit :
    ∃ s, Reachable s ∧ s.reserve.deficitUnderlying.val = 404 ∧
      s.contract.badDebtLossAllocation = .deferredToDeficit ∧
      s.contract.liquidationAccess = .liquidatorOnly := by
  obtain ⟨s₀, ts, s, hdeployed, run, -, hcheck⟩ := exists_run Demo.deficit_ok
  have hdeficit : s.reserve.deficitUnderlying.val = 404 := by
    simpa [Demo.deficitCheck] using hcheck
  have hreachable : Reachable s := ⟨_, s₀, ts, hdeployed, run⟩
  have hpos : 0 < s.reserve.deficitUnderlying.val := by omega
  exact ⟨s, hreachable, hdeficit, (configuration_safe hreachable).1 hpos⟩

end DemocratizedPrime
