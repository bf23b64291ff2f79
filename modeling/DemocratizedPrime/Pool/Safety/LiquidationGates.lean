import DemocratizedPrime.Pool.Overflow
import DemocratizedPrime.Pool.Invariants.Underflow
import DemocratizedPrime.Pool.Query.LiquidationForecast

/-!
# The gates of a liquidation

`liquidate` has some twenty checks, most of them written for other cases.  This module
follows the code line by line for a borrower who is liquidatable with every holding priced,
and finds what is left of the checks.

There are three groups.

* The target (`Resolvable.onlyOverflows_target`): a position without a debt is not
  liquidatable, so the debt and the price of the lending denomination are positive.
* The plan (`onlyOverflows_planLiquidation`).  `ClearsGuards` is what the guards between the
  repayment and the seizure ask for.
* The settlement (`onlyOverflows_settleLiquidation`), up to the underflows of the totals,
  which the two ledgers rule out (`onlyOverflows_liquidate`).
-/

namespace DemocratizedPrime

open Result TreeMap

/-! ## The position -/

/-- A borrower who is liquidatable in the block of `env`, with every holding priced: `r` is
the accrued reserve, `quoted` has the quotes of a liquidation, and `price` is the one of the
lending denomination. -/
structure Resolvable (deps : Deps) (s : PoolStorage) (env : Env) (b : Addr)
    (r : ReserveStateV1) (debt : Uint128) (quoted : LiquidationPrices)
    (price : AssetPriceResponseV1) : Prop where
  accrued : AccruedTo s env.blockTime r
  debt_eq : debt.val =
    (s.getScaledBorrow b).val * r.borrowIndex.atomics / decimalFractional
  quoted_eq : getAssetPricesForLiquidation deps env.blockTime s.contract
    (s.getBorrowerCollateral b) = .ok quoted
  priced : quoted.unpriceable = []
  lending : quoted.prices[s.contract.lendingDenom.name]? = some price
  liquidatable : ∃ position, getBorrowerHealth s.contract s.contract.supportedCollateralAssets
    quoted.prices (s.getBorrowerCollateral b) debt = .ok position ∧
    position.health = .liquidatable

/-- A call of `Liquidate` that the sender may make, with `sent` coins attached. -/
structure MayLiquidate (deps : Deps) (s : PoolStorage) (info : MessageInfo) (borrower : String)
    (b : Addr) (sent : Uint128) : Prop where
  active : s.contract.operationalState ≠ .paused
  access : checkLiquidationAccess s.contract info.sender = .ok ()
  address : deps.addrValidate (trim borrower) = .ok b
  funds : info.funds = [⟨s.contract.lendingDenom.name, sent⟩]

/-- Each holding has a quote, and its price is not zero. -/
def Priced (q : LiquidationPrices) (holdings : Amounts) : Prop :=
  ∀ a, (amountOf holdings a).val ≠ 0 → ∃ p, q.prices[a]? = some p ∧ p.isZeroPrice = false

namespace Resolvable

variable {deps : Deps} {s : PoolStorage} {env : Env} {info : MessageInfo} {b : Addr}
  {r : ReserveStateV1} {debt : Uint128} {quoted : LiquidationPrices}
  {price : AssetPriceResponseV1} {borrower : String} {seize : Amounts}

theorem debt_pos (h : Resolvable deps s env b r debt quoted price) (hs : ConfigSafety s) :
    0 < debt.val := by
  obtain ⟨position, hposition, hbad⟩ := h.liquidatable
  have hrate := hs.rates.margin_lt
  rw [Decimal256.lt_def] at hrate
  exact debt_pos_of_liquidatable (by omega) hposition hbad

theorem scaled_pos (h : Resolvable deps s env b r debt quoted price) (hs : ConfigSafety s) :
    0 < (s.getScaledBorrow b).val := by
  have hpos := h.debt_pos hs
  apply Nat.pos_of_ne_zero
  intro hzero
  rw [h.debt_eq, hzero, Nat.zero_mul, Nat.zero_div] at hpos
  exact Nat.lt_irrefl _ hpos

theorem index_pos (h : Resolvable deps s env b r debt quoted price) (hs : ConfigSafety s) :
    0 < r.borrowIndex.atomics := by
  have hpos := h.debt_pos hs
  apply Nat.pos_of_ne_zero
  intro hzero
  rw [h.debt_eq, hzero, Nat.mul_zero, Nat.zero_div] at hpos
  exact Nat.lt_irrefl _ hpos

/-- The health of a debt is not computed at a price of zero. -/
theorem price_nonzero (h : Resolvable deps s env b r debt quoted price) (hs : ConfigSafety s) :
    price.isZeroPrice = false := by
  obtain ⟨position, hposition, -⟩ := h.liquidatable
  have hpos := h.debt_pos hs
  simp only [getBorrowerHealth, calculateLtv, calculateBorrowValueUsd, bind_eq_ok] at hposition
  obtain ⟨_, ⟨value, hvalue, -⟩, -⟩ := hposition
  rw [if_neg (Nat.ne_of_gt hpos)] at hvalue
  simp only [bind_eq_ok, okOr_eq_ok, ensure_eq_ok, exists_const] at hvalue
  obtain ⟨p, hp, hnonzero, -⟩ := hvalue
  have hlending := h.lending
  rw [hp] at hlending
  exact Option.some.inj hlending ▸ hnonzero

theorem holdings_priced (h : Resolvable deps s env b r debt quoted price) :
    Priced quoted (s.getBorrowerCollateral b) := by
  have hquoted := h.quoted_eq
  simp only [getAssetPricesForLiquidation, bind_eq_ok] at hquoted
  obtain ⟨stored, -, hdrop⟩ := hquoted
  have valid := dropUnpriceableForLiquidation_spec hdrop
  intro a ha
  have hnone : ¬ quoted.unpriceable.contains a = true := by
    rw [h.priced]
    simp
  have hpriceable : isUnpriceable stored env.blockTime
      s.contract.maxLiquidationStalenessSeconds a ≠ true := by
    intro hun
    exact hnone ((valid.unpriceable a).mpr ⟨ha, hun⟩)
  have hget := valid.prices a
  rw [if_neg hnone] at hget
  unfold isUnpriceable at hpriceable
  cases hstored : stored[a]? with
  | none => simp [hstored] at hpriceable
  | some p =>
    rw [hstored] at hpriceable hget
    refine ⟨p, hget, ?_⟩
    cases hzero : p.isZeroPrice with
    | false => rfl
    | true => simp [hzero] at hpriceable

/-! ## The target -/

theorem onlyOverflows_target (h : Resolvable deps s env b r debt quoted price)
    (hs : ConfigSafety s) (haccess : checkLiquidationAccess s.contract info.sender = .ok ())
    (haddress : deps.addrValidate (trim borrower) = .ok b)
    (hholds : (s.getBorrowerCollateral b).isEmpty = false) :
    OnlyOverflows (liquidationTarget deps s env info borrower seize) := by
  obtain ⟨position, hposition, hbad⟩ := h.liquidatable
  have hdebt : scaledToUnderlyingBorrow (s.getScaledBorrow b) r.borrowIndex = .ok debt :=
    scaledToUnderlying_of_eq h.debt_eq
  obtain ⟨f, htarget⟩ := liquidationTarget_gates haccess haddress h.accrued
    (h.scaled_pos hs) hdebt (h.debt_pos hs) hholds h.quoted_eq hposition hbad
  rw [htarget]
  exact allErrors_map.mpr (onlyOverflows_scaledToUnderlyingBorrowCeil _ _)

/-- What the target of a call looks like. -/
theorem target_eq {t : LiquidationTarget} (h : Resolvable deps s env b r debt quoted price)
    (haddress : deps.addrValidate (trim borrower) = .ok b)
    (ht : liquidationTarget deps s env info borrower seize = .ok t) :
    t.borrower = b ∧ t.reserve = r ∧ t.scaledDebt = s.getScaledBorrow b ∧
      t.debtUnderlying = debt ∧
      t.debtPayoff.val = closingPrice (s.getScaledBorrow b).val r.borrowIndex ∧
      t.collateral = s.getBorrowerCollateral b ∧ t.quoted = quoted := by
  obtain ⟨hborrower, hreserve, hscaled, hdebt, hpayoff, hcollateral, hquoted⟩ :=
    (liquidationTarget_spec ht).determined (addrValidate_eq_ok.mp haddress).2.symm h.accrued
      h.quoted_eq
  refine ⟨hborrower, hreserve, hscaled, ?_, hpayoff, hcollateral, hquoted⟩
  apply Uint.ext
  rw [hdebt, h.debt_eq]

end Resolvable

/-! ## The plan -/

section Plan

variable {o : Ownership} {c : ContractStateV1} {info : MessageInfo} {t : LiquidationTarget}
  {q : LiquidationPrices} {col seize : Amounts} {price : AssetPriceResponseV1} {sent : Uint128}

/-- A request for a part of the holdings is valued, since the holdings are supported and
priced. -/
theorem onlyOverflows_addSeizedValue {total : Decimal256} {e : String × Uint128}
    (hpriced : Priced q col) (hnone : q.unpriceable = [])
    (hsupported : ∀ a, 0 < (amountOf col a).val → c.supports a = true)
    (hwithin : e.2.val ≤ (amountOf col e.1).val) :
    OnlyOverflows (addSeizedValue c col q total e) := by
  unfold addSeizedValue
  by_cases hz : e.2.val = 0
  · rw [if_pos hz]
    exact allErrors_pure
  · rw [if_neg hz]
    have hheld : 0 < (amountOf col e.1).val := by omega
    obtain ⟨p, hp, hnonzero⟩ := hpriced e.1 (Nat.ne_of_gt hheld)
    have hlisted : q.unpriceable.contains e.1 = false := by
      rw [hnone]
      rfl
    refine AllErrors.ensure (hsupported e.1 hheld) (AllErrors.ensure hwithin ?_)
    refine AllErrors.ensure hlisted (AllErrors.bind (okOr_eq_ok.mpr hp) ?_)
    rw [allErrors_bind]
    exact ⟨onlyOverflows_valueUsd hnonzero _, fun _ _ => onlyOverflows_checkedAdd _ _⟩

/-- The holdings are valued before the write-off guard. -/
theorem onlyOverflows_addMarketValue {total : Decimal256} {e : String × Uint128}
    (hpriced : Priced q col) (hentry : amountOf col e.1 = e.2) :
    OnlyOverflows (addMarketValue q total e) := by
  unfold addMarketValue
  by_cases hskip : e.2.val = 0 ∨ q.unpriceable.contains e.1 = true
  · rw [if_pos hskip]
    exact allErrors_pure
  · rw [if_neg hskip]
    have hheld : (amountOf col e.1).val ≠ 0 := by
      rw [hentry]
      exact fun hz => hskip (Or.inl hz)
    obtain ⟨p, hp, hnonzero⟩ := hpriced e.1 hheld
    simp only [hp, allErrors_bind]
    exact ⟨onlyOverflows_valueUsd hnonzero _, fun _ _ => onlyOverflows_checkedAdd _ _⟩

/-- Without unpriceable holdings anyone may liquidate. -/
theorem ownerGate_open {bad fill : Bool} {post : Amounts} {debt : Uint128} {sender : Addr}
    (hnone : q.unpriceable = []) :
    requireOwnerForUnpriceable o sender c q col debt bad post fill = .ok () := by
  unfold requireOwnerForUnpriceable
  cases c.liquidationAccess with
  | liquidatorOnly => rfl
  | permissionless =>
    have hbearing : loadBearing c q col debt fill = .ok false := by
      unfold loadBearing unpriceableIsLoadBearing
      cases fill <;> simp [hnone, pure, Except.pure]
    have hsweeps : sweepsUnpriceable q bad post = false := by
      unfold sweepsUnpriceable
      simp [hnone]
    simp only [hbearing, ok_bind, hsweeps, Bool.or_self, Bool.false_eq_true, if_false]
    rfl

/-- How a repayment of `k` scaled units that leaves `post` gets past the guards: nothing is
left of the debt, or what is left is written off against a position that is insolvent. -/
inductive ClearsGuards (c : ContractStateV1) (t : LiquidationTarget)
    (price : AssetPriceResponseV1) (sent : Uint128) (seize : Amounts) (k : Uint128)
    (post : Amounts) : Prop
  | full (all : k.val = t.scaledDebt.val)
      (floor : price.valueAtomics (sent.min t.debtPayoff).val ≤
        totalMarketValue t.quoted.prices seize)
  | short (less : k.val < t.scaledDebt.val)
      (worthless : collateralValue t.quoted.prices c.supportedCollateralAssets post = 0)
      (insolvent : pricedMarketValue t.quoted t.collateral < price.valueAtomics t.debtPayoff.val)
      (unpaid : sent.val < t.debtUnderlying.val)

/-- There is a debt to take such a repayment from. -/
theorem ClearsGuards.exists_left {k : Uint128} {post : Amounts}
    (h : ClearsGuards c t price sent seize k post) :
    ∃ left, t.scaledDebt.checkedSub k = some left := by
  have hle : k.val ≤ t.scaledDebt.val := by
    cases h with
    | full all _ => omega
    | short less _ _ _ => omega
  rw [← Option.isSome_iff_exists, Option.isSome_iff_ne_none, ne_eq, Uint.checkedSub_eq_none]
  omega

/-- What the guards see of it, with `bad` the flag of a write-off: the debt is cleared for
at least its price, or it is written off. -/
theorem ClearsGuards.outcome {k new : Uint128} {post : Amounts} {bad : Bool}
    {repayUsd seizedUsd postUsd preUsd payoffUsd : Decimal256}
    (h : ClearsGuards c t price sent seize k post)
    (hnew : t.scaledDebt.checkedSub k = some new)
    (hrepay : repayUsd.atomics = price.valueAtomics (sent.min t.debtPayoff).val)
    (hseized : seizedUsd.atomics = totalMarketValue t.quoted.prices seize)
    (hpost : postUsd.atomics =
      collateralValue t.quoted.prices c.supportedCollateralAssets post)
    (hpre : preUsd.atomics = pricedMarketValue t.quoted t.collateral)
    (hpayoff : payoffUsd.atomics = price.valueAtomics t.debtPayoff.val)
    (hbad : (decide (0 < new.val) && postUsd.isZero) = bad) :
    (bad = false ∧ new.val = 0 ∧ repayUsd ≤ seizedUsd) ∨
      (bad = true ∧ preUsd < payoffUsd ∧ sent.val < t.debtUnderlying.val) := by
  have hleft := Uint.checkedSub_eq_some.mp hnew
  cases h with
  | full all floor =>
    have hzero : new.val = 0 := by omega
    refine Or.inl ⟨by simp [← hbad, hzero], hzero, ?_⟩
    rwa [Decimal256.le_def, hrepay, hseized]
  | short less worthless insolvent unpaid =>
    have hrest : 0 < new.val := by omega
    have hworthless : postUsd.isZero = true := by
      rw [Decimal256.isZero_iff, hpost, worthless]
    refine Or.inr ⟨by simp [← hbad, hrest, hworthless], ?_, unpaid⟩
    rwa [Decimal256.lt_def, hpre, hpayoff]

/-- The health of the rest is checked only when a debt is left that is not written off. -/
theorem checkPostHealth_waived {r : ReserveStateV1} {prices : PriceMap} {post : Amounts}
    {new : Uint128} {bad : Bool} (h : new.val = 0 ∨ bad = true) :
    checkPostHealth c r prices post new bad = .ok () := by
  have hskip : ¬ (0 < new.val ∧ bad = false) := by
    rintro ⟨hrest, rfl⟩
    rcases h with hzero | hbad
    · omega
    · cases hbad
  unfold checkPostHealth
  rw [if_neg hskip]
  rfl

theorem onlyOverflows_scaledRepayFor {applied payoff debt : Uint128} {bi : Decimal256}
    (hindex : bi.atomics ≠ 0) : OnlyOverflows (scaledRepayFor applied payoff debt bi) := by
  unfold scaledRepayFor
  split
  · exact allErrors_pure
  · exact onlyOverflows_underlyingToScaledBorrow _ hindex

theorem onlyOverflows_badDebtLoss {bad : Bool} {debt : Uint128} {bi : Decimal256} :
    OnlyOverflows (badDebtLoss bad debt bi) := by
  unfold badDebtLoss
  split
  · exact onlyOverflows_scaledToUnderlyingBorrowCeil _ _
  · exact allErrors_pure

theorem checkSeizeNotEmpty_of {allow empty : Bool} {m : String} (h : empty = false) :
    checkSeizeNotEmpty allow empty m = .ok () := by
  unfold checkSeizeNotEmpty
  split
  · rfl
  · exact ensure_eq_ok.mpr h

/-- A request with a positive amount is not empty. -/
theorem request_nonempty (h : ∃ a, 0 < (amountOf seize a).val) :
    (normalizeSeizeMap seize).isEmpty = false ∧ seize.isEmpty = false := by
  obtain ⟨a, ha⟩ := h
  constructor
  · cases hempty : (normalizeSeizeMap seize).isEmpty with
    | false => rfl
    | true =>
      have hzero := amountOf_of_isEmpty hempty a
      rw [normalizeSeizeMap_amountOf] at hzero
      omega
  · cases hempty : seize.isEmpty with
    | false => rfl
    | true =>
      have hzero := amountOf_of_isEmpty hempty a
      omega

/-- A request for a part of the holdings can be taken out of them. -/
theorem exists_seizeEntry_foldlM
    (hwithin : ∀ a, (amountOf seize a).val ≤ (amountOf col a).val) :
    ∃ post, (normalizeSeizeMap seize).toList.foldlM seizeEntry col = .ok post := by
  refine Taken.exists_foldlM fun a => ?_
  rw [coinsOf_toList, normalizeSeizeMap_amountOf]
  exact hwithin a

/-- No guard of the plan refuses such a repayment. -/
theorem onlyOverflows_planLiquidation
    (hfunds : info.funds = [⟨c.lendingDenom.name, sent⟩]) (hsent : 1 ≤ sent.val)
    (hprice : t.quoted.prices[c.lendingDenom.name]? = some price)
    (hnonzero : price.isZeroPrice = false) (hnone : t.quoted.unpriceable = [])
    (hpriced : Priced t.quoted t.collateral)
    (hsupported : ∀ a, 0 < (amountOf t.collateral a).val → c.supports a = true)
    (hindex : t.reserve.borrowIndex.atomics ≠ 0)
    (hwithin : ∀ a, (amountOf seize a).val ≤ (amountOf t.collateral a).val)
    (hpositive : ∃ a, 0 < (amountOf seize a).val)
    (hcap : totalMarketValue t.quoted.prices seize ≤
      price.valueAtomics (sent.min t.debtPayoff).val * c.liquidationBonusRate.atomics /
        decimalFractional)
    (hcancels : ∀ k, scaledRepayFor (sent.min t.debtPayoff) t.debtPayoff t.scaledDebt
      t.reserve.borrowIndex = .ok k → 0 < k.val)
    (hclears : ∀ k post, scaledRepayFor (sent.min t.debtPayoff) t.debtPayoff t.scaledDebt
      t.reserve.borrowIndex = .ok k →
      Taken t.collateral ((normalizeSeizeMap seize).toList.map entryCoin) post →
      ClearsGuards c t price sent seize k post) :
    OnlyOverflows (planLiquidation o c info t seize) := by
  have hrequested : (normalizeSeizeMap seize).isEmpty = false ∧ seize.isEmpty = false :=
    request_nonempty hpositive
  obtain ⟨post, hpost⟩ := exists_seizeEntry_foldlM hwithin
  have htaken : Taken t.collateral ((normalizeSeizeMap seize).toList.map entryCoin) post :=
    Taken.foldlM (fun _ _ _ he => Taken.takeAmount he) hpost
  unfold planLiquidation
  dsimp only
  refine AllErrors.bind (okOr_eq_ok.mpr hprice) (AllErrors.ensure hnonzero ?_)
  refine AllErrors.bind (validateSingleCoinDenom_eq_ok.mpr ⟨hfunds, hsent⟩) ?_
  rw [allErrors_bind]
  refine ⟨onlyOverflows_scaledRepayFor hindex, fun k hk => ?_⟩
  have hclear := hclears k post hk htaken
  obtain ⟨new, hnew⟩ := hclear.exists_left
  refine AllErrors.ensure (hcancels k hk) (AllErrors.bind (okOr_eq_ok.mpr hnew) ?_)
  rw [allErrors_bind]
  refine ⟨onlyOverflows_valueUsd hnonzero _, fun repayUsd hrepayUsd => ?_⟩
  rw [allErrors_bind]
  refine ⟨onlyOverflows_checkedMul _ _, fun max hmax => ?_⟩
  -- The request
  refine AllErrors.bind (checkSeizeNotEmpty_of hrequested.2) ?_
  rw [allErrors_bind]
  refine ⟨AllErrors.foldlM_mem (fun total e he => ?_) _, fun seizedUsd hseizedUsd => ?_⟩
  · apply onlyOverflows_addSeizedValue hpriced hnone hsupported
    have hle := hwithin e.1
    rwa [amountOf_of_mem he] at hle
  have hseized := (addSeizedValue_foldlM hseizedUsd).1
  refine AllErrors.bind (checkSeizeNotEmpty_of hrequested.1) (AllErrors.bind hpost ?_)
  rw [allErrors_bind]
  refine ⟨onlyOverflows_collateralValue _ _, fun postUsd hpostUsd => ?_⟩
  refine AllErrors.bind (ownerGate_open hnone) ?_
  rw [allErrors_bind]
  refine ⟨AllErrors.foldlM_mem (fun total e he => ?_) _, fun preUsd hpreUsd => ?_⟩
  · exact onlyOverflows_addMarketValue hpriced (amountOf_of_mem he)
  rw [allErrors_bind]
  refine ⟨onlyOverflows_valueUsd hnonzero _, fun payoffUsd hpayoffUsd => ?_⟩
  -- The guards
  generalize hbad : (decide (0 < new.val) && postUsd.isZero) = bad
  have houtcome := hclear.outcome hnew (AssetPriceResponseV1.valueUsd_ok hrepayUsd) hseized
    (calculateTotalCollateralValueUsd_eq hpostUsd) (addMarketValue_foldlM hpreUsd)
    (AssetPriceResponseV1.valueUsd_ok hpayoffUsd) hbad
  have hsolvent : ¬ (bad = true ∧ payoffUsd ≤ preUsd) := by
    rintro ⟨hb, hle⟩
    rcases houtcome with ⟨hb', -⟩ | ⟨-, hlt, -⟩
    · rw [hb] at hb'
      cases hb'
    · exact absurd hle (Nat.not_le.mpr hlt)
  have hfloor : (bad || (decide (new.val = 0) && seizedUsd.isZero)) = true ∨
      repayUsd ≤ seizedUsd := by
    rcases houtcome with ⟨-, -, hle⟩ | ⟨hb, -⟩
    · exact Or.inr hle
    · exact Or.inl (by rw [hb, Bool.true_or])
  have hceiled : ¬ (bad = true ∧ t.debtUnderlying.val ≤ sent.val ∧
      sent.val < t.debtPayoff.val) := by
    rintro ⟨hb, hle, -⟩
    rcases houtcome with ⟨hb', -⟩ | ⟨-, -, hlt⟩
    · rw [hb] at hb'
      cases hb'
    · omega
  have hhealth : checkPostHealth c t.reserve t.quoted.prices post new bad = .ok () := by
    apply checkPostHealth_waived
    rcases houtcome with ⟨-, hzero, -⟩ | ⟨hb, -⟩
    · exact Or.inl hzero
    · exact Or.inr hb
  have hmax : seizedUsd ≤ max := by
    rw [Decimal256.le_def, hseized, Decimal256.checkedMul_eq_ok.mp hmax,
      AssetPriceResponseV1.valueUsd_ok hrepayUsd]
    exact hcap
  refine AllErrors.ensure hsolvent (AllErrors.ensure hfloor (AllErrors.ensure hmax ?_))
  refine AllErrors.ensure hceiled (AllErrors.bind hhealth ?_)
  rw [allErrors_bind]
  exact ⟨onlyOverflows_badDebtLoss, fun _ _ => allErrors_pure⟩

end Plan

/-! ## The settlement -/

/-- The settlement of a write-off that is deferred, or of no write-off, fails by an overflow
or by an underflow of a total. -/
theorem onlyOverflows_settleLiquidation {s : PoolStorage} {c : ContractStateV1}
    {info : MessageInfo} {t : LiquidationTarget} {p : LiquidationPlan} {seize : Amounts}
    (hparams : c.rateParams.Valid)
    (hdeferred : p.badDebt = true → c.badDebtLossAllocation = .deferredToDeficit) :
    AllErrors (fun e => NotUnderflow e → IsArithmeticOverflow e)
      (settleLiquidation s c info t p seize) := by
  have hbook : AllErrors (fun e => NotUnderflow e → IsArithmeticOverflow e)
      (bookRepayment c t.reserve p) := by
    unfold bookRepayment
    split
    · rename_i hbad
      rw [hdeferred hbad]
      simp [ledgerUnderflows, amountOverflows]
    · simp [ledgerUnderflows]
  have hsend : ∀ out entry, AllErrors (fun e => NotUnderflow e → IsArithmeticOverflow e)
      (sendOutEntry out entry) := by
    intro out entry
    simp [sendOutEntry, PoolStorage.subtractTotalCollateral, ledgerUnderflows, amountOverflows]
  have hreport : ∀ (res : Response) r, AllErrors (fun e => NotUnderflow e → IsArithmeticOverflow e)
      (res.attachRates r c.rateParams) := by
    intro res r
    exact (onlyOverflows_attachRates r hparams res).mono fun _ he _ => he
  simp only [settleLiquidation, allErrors_bind, allErrors_pure, hbook, hreport,
    AllErrors.foldlM hsend, implies_true, and_true]

/-- A liquidation whose target and plan can only overflow can itself only overflow. -/
theorem onlyOverflows_liquidate {deps : Deps} {s : PoolStorage} {env : Env} {info : MessageInfo}
    {borrower : String} {seize : Amounts} (hreach : Reachable s)
    (htarget : OnlyOverflows (liquidationTarget deps s env info borrower seize))
    (hplan : ∀ t, liquidationTarget deps s env info borrower seize = .ok t →
      OnlyOverflows (planLiquidation s.ownership s.contract info t seize))
    (hdeferred : ∀ t p, liquidationTarget deps s env info borrower seize = .ok t →
      planLiquidation s.ownership s.contract info t seize = .ok p → p.badDebt = true →
      s.contract.badDebtLossAllocation = .deferredToDeficit) :
    OnlyOverflows (liquidate deps s env info borrower seize) := by
  have hparams := RateParamsV1.validate_spec hreach.rateParams_valid
  have hall : AllErrors (fun e => NotUnderflow e → IsArithmeticOverflow e)
      (liquidate deps s env info borrower seize) := by
    simp only [liquidate, allErrors_bind]
    refine ⟨htarget.mono fun _ he _ => he, fun t ht => ?_⟩
    refine ⟨(hplan t ht).mono fun _ he _ => he, fun p hp => ?_⟩
    exact onlyOverflows_settleLiquidation hparams (hdeferred t p ht hp)
  exact hall.imp (noUnderflow_liquidate hreach.debtLedger hreach.collateralLedger deps env info
    borrower seize)

end DemocratizedPrime
