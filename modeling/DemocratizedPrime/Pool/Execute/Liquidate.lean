import DemocratizedPrime.Pool.Execute.Borrowing

/-!
# Liquidation

`liquidate` runs in three stages, in the order of the numbered sections of the
source.

* `liquidationTarget` checks who may call, finds the debt and the collateral,
  prices them, and decides whether the seizure fills a directed-sale offer.
  Without such a fill the borrower must be liquidatable.
* `planLiquidation` computes what the attached coins repay and what the seizure
  leaves behind, and checks the guards between the two: the owner gate, the
  solvent write-off guard, the value band, the ceiled payoff, and the health of
  what is left.
* `settleLiquidation` writes the plan to storage, and sends the seized coins and
  the refund.

A write-off (`badDebt`) is a repayment that leaves a debt against holdings
without any value.  It books the rest of the debt as a loss and sweeps what is
left of the collateral to the liquidator.
-/

namespace DemocratizedPrime

open Result

/-! ## The target -/

/-- What the call found out about the borrower. -/
structure LiquidationTarget where
  borrower : Addr
  reserve : ReserveStateV1
  scaledDebt : Uint128
  debtUnderlying : Uint128
  debtPayoff : Uint128
  collateral : Amounts
  quoted : LiquidationPrices
  offer : Option DirectedSaleOfferV1
  directedFill : Bool

/-- A live offer that contains the seizure. -/
def isDirectedFill (offer : Option DirectedSaleOfferV1) (now : Timestamp) (seize : Amounts) :
    Bool :=
  offer.any fun offer => offer.isLive now && isSeizeWithinOffer offer.amounts seize

/-- Only the liquidator may call, unless the pool is permissionless. -/
def checkLiquidationAccess (contract : ContractStateV1) (sender : Addr) : ContractResult Unit :=
  match contract.liquidationAccess with
  | .liquidatorOnly =>
    assertLiquidator contract sender "Only the contract liquidator may liquidate"
  | .permissionless => return ()

/-- The checks before a liquidation, and what they find: the accrued reserve, the debt, the
collateral and the prices. -/
def liquidationTarget (deps : Deps) (store : PoolStorage) (env : Env) (info : MessageInfo)
    (borrower : String) (collateralToSeize : Amounts) : ContractResult LiquidationTarget := do
  let contract := store.contract
  checkLiquidationAccess contract info.sender
  let borrowerAddr ← deps.addrValidate (trim borrower)
  let (store, reserve) ← updateReserveIndexes store env contract.rateParams
  let scaledDebt := store.getScaledBorrow borrowerAddr
  ensure (0 < scaledDebt.val) (illegalArgument
    "Borrower has no debt (no scaled borrow on file; may have repaid in full)")
  let debtUnderlying ← scaledToUnderlyingBorrow scaledDebt reserve.borrowIndex
  let debtPayoff ← scaledToUnderlyingBorrowCeil scaledDebt reserve.borrowIndex
  ensure (0 < debtUnderlying.val) (illegalArgument
    "Borrower has no debt (scaled borrow rounds to zero underlying; dust)")
  let collateral := store.getBorrowerCollateral borrowerAddr
  ensure (collateral.isEmpty = false) (illegalArgument "Borrower has no collateral")
  let quoted ← getAssetPricesForLiquidation deps env.blockTime contract collateral
  let position ← getBorrowerHealth contract contract.supportedCollateralAssets quoted.prices
    collateral debtUnderlying
  let offer := store.getDirectedSaleOffer borrowerAddr
  let directedFill := isDirectedFill offer env.blockTime collateralToSeize
  ensure (directedFill = true ∨ position.health = .liquidatable)
    (illegalArgument "Borrower is not liquidatable (LTV below liquidation rate)")
  return { borrower := borrowerAddr, reserve, scaledDebt, debtUnderlying, debtPayoff, collateral,
           quoted, offer, directedFill }

/-- What a target of a successful call satisfies. -/
structure LiquidationTarget.Valid (deps : Deps) (s : PoolStorage) (env : Env)
    (info : MessageInfo) (borrower : String) (collateralToSeize : Amounts)
    (t : LiquidationTarget) : Prop where
  access : checkLiquidationAccess s.contract info.sender = .ok ()
  borrower_eq : t.borrower = trim borrower
  accrued : AccruedTo s env.blockTime t.reserve
  scaledDebt_eq : t.scaledDebt = s.getScaledBorrow t.borrower
  scaledDebt_pos : 0 < t.scaledDebt.val
  debt_eq : t.debtUnderlying.val =
    t.scaledDebt.val * t.reserve.borrowIndex.atomics / decimalFractional
  debt_pos : 0 < t.debtUnderlying.val
  payoff_eq : t.debtPayoff.val =
    (t.scaledDebt.val * t.reserve.borrowIndex.atomics + (decimalFractional - 1)) /
      decimalFractional
  collateral_eq : t.collateral = s.getBorrowerCollateral t.borrower
  collateral_nonempty : t.collateral.isEmpty = false
  quoted_eq : getAssetPricesForLiquidation deps env.blockTime s.contract t.collateral =
    .ok t.quoted
  offer_eq : t.offer = s.getDirectedSaleOffer t.borrower
  directed_eq : t.directedFill = isDirectedFill t.offer env.blockTime collateralToSeize
  health : ∃ position, getBorrowerHealth s.contract s.contract.supportedCollateralAssets
    t.quoted.prices t.collateral t.debtUnderlying = .ok position ∧
    (t.directedFill = true ∨ position.health = .liquidatable)

theorem liquidationTarget_spec {deps : Deps} {s : PoolStorage} {env : Env} {info : MessageInfo}
    {borrower : String} {seize : Amounts} {t : LiquidationTarget}
    (h : liquidationTarget deps s env info borrower seize = .ok t) :
    t.Valid deps s env info borrower seize := by
  simp only [liquidationTarget, bind_eq_ok, Prod.exists, updateReserveIndexes_eq_ok,
    ensure_eq_ok, exists_const, addrValidate_eq_ok, pure_eq_ok] at h
  obtain ⟨_, haccess, _, ⟨-, rfl⟩, _, r, ⟨hr, rfl⟩, hscaled, debt, hdebt, payoff, hpayoff,
    hpos, hcol, quoted, hquoted, position, hposition, hhealth, rfl⟩ := h
  exact {
    access := haccess
    borrower_eq := rfl
    accrued := hr
    scaledDebt_eq := rfl
    scaledDebt_pos := hscaled
    debt_eq := scaledToUnderlying_eq hdebt
    debt_pos := hpos
    payoff_eq := scaledToUnderlyingBorrowCeil_eq hpayoff
    collateral_eq := rfl
    collateral_nonempty := hcol
    quoted_eq := hquoted
    offer_eq := rfl
    directed_eq := rfl
    health := ⟨position, hposition, hhealth⟩ }

/-! ## The seizure -/

/-- The borrower holds something with a usable quote. -/
def holdsPriceableCollateral (quoted : LiquidationPrices) (collateral : Amounts) : Bool :=
  collateral.toList.any fun entry =>
    decide (0 < entry.2.val) && !quoted.unpriceable.contains entry.1

/-- The checks and the market value of one requested amount. -/
def addSeizedValue (contract : ContractStateV1) (collateral : Amounts)
    (quoted : LiquidationPrices) (total : Decimal256) (entry : String × Uint128) :
    ContractResult Decimal256 :=
  if entry.2.val = 0 then return total
  else do
    ensure (contract.supports entry.1 = true) (illegalArgument
      s!"Unsupported collateral asset in collateral_to_seize: {entry.1}")
    let borrowerHas := amountOf collateral entry.1
    ensure (entry.2.val ≤ borrowerHas.val) (illegalArgument
      (s!"Borrower has insufficient collateral for {entry.1}: have {borrowerHas}, " ++
        s!"requested {entry.2}"))
    ensure (quoted.unpriceable.contains entry.1 = false) (illegalArgument
      ("Cannot seize unpriceable collateral (no stored, zero, or over-stale oracle price): " ++
        entry.1))
    let price ← okOr quoted.prices[entry.1]? (notFound s!"Price of asset: {entry.1}")
    let value ← price.valueUsd entry.2
    total.checkedAdd value

/-- One requested amount leaves the dry-run collateral. -/
def seizeEntry (amounts : Amounts) (entry : String × Uint128) : ContractResult Amounts :=
  takeAmount amounts entry.1 entry.2 (illegalState "collateral underflow")

/-- The market value of one priced holding. -/
def addMarketValue (quoted : LiquidationPrices) (total : Decimal256)
    (entry : String × Uint128) : ContractResult Decimal256 :=
  if entry.2.val = 0 ∨ quoted.unpriceable.contains entry.1 = true then return total
  else
    match quoted.prices[entry.1]? with
    | none => return total
    | some price => do
      let value ← price.valueUsd entry.2
      total.checkedAdd value

/-- The market value of an amount, without a haircut. -/
def marketValue (prices : PriceMap) (assetId : String) (amount : Nat) : Nat :=
  match prices[assetId]? with
  | none => 0
  | some p => p.valueAtomics amount

@[simp] theorem marketValue_zero (prices : PriceMap) (id : String) :
    marketValue prices id 0 = 0 := by
  unfold marketValue
  split <;> simp

/-- The market value of the entries of a map. -/
def totalMarketValue (prices : PriceMap) (amounts : Amounts) : Nat :=
  (amounts.toList.map fun entry => marketValue prices entry.1 entry.2.val).sum

/-- The market value of the holdings that liquidation can price. -/
def pricedMarketValue (quoted : LiquidationPrices) (amounts : Amounts) : Nat :=
  (amounts.toList.map fun entry =>
    if quoted.unpriceable.contains entry.1 then 0
    else marketValue quoted.prices entry.1 entry.2.val).sum

/-- What the checks of one requested amount establish. -/
def SeizableEntry (contract : ContractStateV1) (collateral : Amounts) (quoted : LiquidationPrices)
    (entry : String × Uint128) : Prop :=
  contract.supports entry.1 = true ∧ entry.2.val ≤ (amountOf collateral entry.1).val ∧
    quoted.unpriceable.contains entry.1 = false ∧
    ∃ price, quoted.prices[entry.1]? = some price

theorem addSeizedValue_spec {c : ContractStateV1} {col : Amounts} {q : LiquidationPrices}
    {t t' : Decimal256} {e : String × Uint128} (h : addSeizedValue c col q t e = .ok t') :
    t'.atomics = t.atomics + marketValue q.prices e.1 e.2.val ∧
      (e.2.val ≠ 0 → SeizableEntry c col q e) := by
  unfold addSeizedValue at h
  by_cases hz : e.2.val = 0
  · rw [if_pos hz, pure_eq_ok] at h
    rw [← h, hz]
    simp
  · rw [if_neg hz] at h
    simp only [bind_eq_ok, ensure_eq_ok, exists_const, okOr_eq_ok,
      Decimal256.checkedAdd_eq_ok] at h
    obtain ⟨hsup, hle, hunp, price, hprice, v, hv, ht⟩ := h
    refine ⟨?_, fun _ => ⟨hsup, hle, hunp, price, hprice⟩⟩
    rw [ht, marketValue, hprice, AssetPriceResponseV1.valueUsd_ok hv]

theorem addSeizedValue_foldlM {c : ContractStateV1} {col seize : Amounts}
    {q : LiquidationPrices} {v : Decimal256}
    (h : seize.toList.foldlM (addSeizedValue c col q) Decimal256.zero = .ok v) :
    v.atomics = totalMarketValue q.prices seize ∧
      ∀ e ∈ seize.toList, e.2.val ≠ 0 → SeizableEntry c col q e := by
  have hloop := foldlM_ok_induct
    (fun done t => t.atomics =
        (done.map fun e : String × Uint128 => marketValue q.prices e.1 e.2.val).sum ∧
      ∀ e ∈ done, e.2.val ≠ 0 → SeizableEntry c col q e)
    (fun done e t t' ht hstep => by
      obtain ⟨hval, hentry⟩ := addSeizedValue_spec hstep
      refine ⟨?_, fun e' he' => ?_⟩
      · rw [hval, ht.1, List.map_append, List.sum_append]
        simp
      · rcases List.mem_append.mp he' with hdone | hnew
        · exact ht.2 e' hdone
        · rw [List.mem_singleton] at hnew
          exact hnew ▸ hentry) ⟨rfl, by simp⟩ h
  exact hloop

theorem addMarketValue_eq {q : LiquidationPrices} {t t' : Decimal256} {e : String × Uint128}
    (h : addMarketValue q t e = .ok t') :
    t'.atomics = t.atomics +
      if q.unpriceable.contains e.1 then 0 else marketValue q.prices e.1 e.2.val := by
  unfold addMarketValue at h
  by_cases hskip : e.2.val = 0 ∨ q.unpriceable.contains e.1 = true
  · rw [if_pos hskip, pure_eq_ok] at h
    rw [← h]
    rcases hskip with hz | hu
    · simp [hz]
    · rw [if_pos hu, Nat.add_zero]
  · rw [if_neg hskip] at h
    have hu : q.unpriceable.contains e.1 = false := by
      simpa using fun hc => hskip (Or.inr (by simpa using hc))
    rw [if_neg (by rw [hu]; exact Bool.false_ne_true)]
    cases hp : q.prices[e.1]? with
    | none =>
      rw [hp] at h
      dsimp only at h
      rw [← pure_eq_ok.mp h]
      simp [marketValue, hp]
    | some price =>
      rw [hp] at h
      simp only [bind_eq_ok, Decimal256.checkedAdd_eq_ok] at h
      obtain ⟨v, hv, ht⟩ := h
      rw [ht, AssetPriceResponseV1.valueUsd_ok hv]
      simp [marketValue, hp]

theorem addMarketValue_foldlM {col : Amounts} {q : LiquidationPrices} {v : Decimal256}
    (h : col.toList.foldlM (addMarketValue q) Decimal256.zero = .ok v) :
    v.atomics = pricedMarketValue q col := by
  have hloop := foldlM_ok_induct
    (fun done t => t.atomics = (done.map fun e : String × Uint128 =>
      if q.unpriceable.contains e.1 then 0 else marketValue q.prices e.1 e.2.val).sum)
    (fun done e t t' ht hstep => by
      rw [addMarketValue_eq hstep, ht, List.map_append, List.sum_append]
      simp) rfl h
  exact hloop

/-! ## The owner gate -/

/-- Whether omitting the unpriceable holdings is what makes the position look
liquidatable.  A holding without a retained quote cannot be counted, so it does. -/
def unpriceableIsLoadBearing (contract : ContractStateV1) (quoted : LiquidationPrices)
    (collateral : Amounts) (debtUnderlying : Uint128) : ContractResult Bool :=
  if quoted.unpriceable.isEmpty then return false
  else
    let missingLastKnown := quoted.unpriceable.any fun id =>
      decide (0 < (amountOf collateral id).val) && !quoted.unpriceableLastKnown.contains id
    if missingLastKnown then return true
    else do
      let position ← getBorrowerHealth contract contract.supportedCollateralAssets
        quoted.pricesWithUnpriceableLastKnown collateral debtUnderlying
      return decide (position.health ≠ .liquidatable)

/-- The load-bearing half of the gate, which a directed fill skips. -/
def loadBearing (contract : ContractStateV1) (quoted : LiquidationPrices) (collateral : Amounts)
    (debtUnderlying : Uint128) (directedFill : Bool) : ContractResult Bool :=
  if directedFill then return false
  else unpriceableIsLoadBearing contract quoted collateral debtUnderlying

/-- A write-off would sweep an unpriceable holding. -/
def sweepsUnpriceable (quoted : LiquidationPrices) (badDebt : Bool) (postCollateral : Amounts) :
    Bool :=
  badDebt && postCollateral.toList.any fun entry =>
    decide (0 < entry.2.val) && quoted.unpriceable.contains entry.1

/-- In a permissionless pool the owner must act when unpriceable collateral
decides the outcome. -/
def requireOwnerForUnpriceable (ownership : Ownership) (sender : Addr)
    (contract : ContractStateV1) (quoted : LiquidationPrices) (preCollateral : Amounts)
    (debtUnderlying : Uint128) (badDebt : Bool) (postCollateral : Amounts)
    (directedFill : Bool) : ContractResult Unit :=
  match contract.liquidationAccess with
  | .liquidatorOnly => return ()
  | .permissionless => do
    let bearing ← loadBearing contract quoted preCollateral debtUnderlying directedFill
    if bearing || sweepsUnpriceable quoted badDebt postCollateral then
      ownership.assertOwner sender
        ("Only the contract owner may liquidate when unpriceable collateral is load-bearing " ++
          "or a write-off would sweep it")
    else return ()

/-! ## The plan -/

/-- What a liquidation does: the repayment, the seizure, and the loss that is left. -/
structure LiquidationPlan where
  sent : Uint128
  actualRepay : Uint128
  scaledRepay : Uint128
  newScaledDebt : Uint128
  seizedValueUsd : Decimal256
  postCollateral : Amounts
  badDebt : Bool
  badDebtUnderlying : Uint128

/-- An empty request is refused unless it is allowed, both before and after the
zero amounts are dropped. -/
def checkSeizeNotEmpty (allowEmptySeize empty : Bool) (message : String) : ContractResult Unit :=
  if allowEmptySeize then return () else ensure (empty = false) (illegalArgument message)

/-- The position that is left must be healthy, unless the debt is gone or
written off. -/
def checkPostHealth (contract : ContractStateV1) (reserve : ReserveStateV1)
    (prices : PriceMap) (postCollateral : Amounts) (newScaledDebt : Uint128) (badDebt : Bool) :
    ContractResult Unit :=
  if 0 < newScaledDebt.val ∧ badDebt = false then do
    let postDebtUnderlying ← scaledToUnderlyingBorrow newScaledDebt reserve.borrowIndex
    let post ← getBorrowerHealth contract contract.supportedCollateralAssets prices
      postCollateral postDebtUnderlying
    if post.health = .healthy then return ()
    else
      let ltv ← formatAsPercentString post.loanToValue
      let margin ← formatAsPercentString contract.marginRate
      throw (illegalArgument (s!"Liquidation would leave the borrower at LTV {ltv} " ++
        s!"({post.health.asStr}), above margin_rate {margin}: repay more, or seize more " ++
        "collateral within the bonus cap (a seizure that empties the borrower collateral map is " ++
        "exempt)"))
  else return ()

/-- The loss of a write-off, which is the price of the debt that is left. -/
def badDebtLoss (badDebt : Bool) (newScaledDebt : Uint128) (borrowIndex : Decimal256) :
    ContractResult Uint128 :=
  if badDebt then scaledToUnderlyingBorrowCeil newScaledDebt borrowIndex else return 0

/-- The amounts of a liquidation, with the limits on what is seized. -/
def planLiquidation (ownership : Ownership) (contract : ContractStateV1) (info : MessageInfo)
    (target : LiquidationTarget) (collateralToSeize : Amounts) :
    ContractResult LiquidationPlan := do
  let { reserve, scaledDebt, debtUnderlying, debtPayoff, collateral, quoted, directedFill, .. } :=
    target
  let priceLending ← okOr quoted.prices[contract.lendingDenom.name]?
    (notFound s!"Price of lending denom is missing: {contract.lendingDenom.name}")
  ensure (priceLending.isZeroPrice = false) (illegalState "Lending denom price is zero")
  let sent ← validateSingleCoinDenom info contract.lendingDenom 1
  let actualRepay := sent.min debtPayoff
  let scaledRepay ← scaledRepayFor actualRepay debtPayoff scaledDebt reserve.borrowIndex
  ensure (0 < scaledRepay.val) (illegalArgument "Repay amount too small to reduce debt")
  let newScaledDebt ← okOr (scaledDebt.checkedSub scaledRepay)
    (illegalState "scaled debt underflow")
  let actualRepayValueUsd ← priceLending.valueUsd actualRepay
  let maxCollateralValueAllowed ← actualRepayValueUsd.checkedMul contract.liquidationBonusRate
  let toSeize := normalizeSeizeMap collateralToSeize
  let allowEmptySeize := !holdsPriceableCollateral quoted collateral && toSeize.isEmpty
  checkSeizeNotEmpty allowEmptySeize collateralToSeize.isEmpty
    "collateral_to_seize must specify at least one asset and amount"
  let seizedValueUsd ← collateralToSeize.toList.foldlM
    (addSeizedValue contract collateral quoted) Decimal256.zero
  checkSeizeNotEmpty allowEmptySeize toSeize.isEmpty
    "collateral_to_seize must contain at least one asset with positive amount"
  let postCollateral ← toSeize.toList.foldlM seizeEntry collateral
  let postCollateralValueUsd ← calculateTotalCollateralValueUsd postCollateral quoted.prices
    contract.supportedCollateralAssets
  let badDebt := decide (0 < newScaledDebt.val) && postCollateralValueUsd.isZero
  requireOwnerForUnpriceable ownership info.sender contract quoted collateral debtUnderlying
    badDebt postCollateral directedFill
  let prePricedMarketValueUsd ← collateral.toList.foldlM (addMarketValue quoted) Decimal256.zero
  let debtPayoffValueUsd ← priceLending.valueUsd debtPayoff
  ensure (¬ (badDebt = true ∧ debtPayoffValueUsd ≤ prePricedMarketValueUsd)) (illegalArgument
    (s!"Collateral market value {prePricedMarketValueUsd} covers debt payoff " ++
      s!"{debtPayoffValueUsd}; a liquidation that leaves a $0 remainder must repay the full " ++
      "payoff"))
  let floorWaived := badDebt || (decide (newScaledDebt.val = 0) && seizedValueUsd.isZero)
  ensure (floorWaived = true ∨ actualRepayValueUsd ≤ seizedValueUsd) (illegalArgument
    (s!"Collateral to seize value {seizedValueUsd} is below required 100% of repay value " ++
      s!"{actualRepayValueUsd} (waived on a write-off, or when the repay clears scaled debt " ++
      "and seizes nothing)"))
  ensure (seizedValueUsd ≤ maxCollateralValueAllowed) (illegalArgument
    (s!"Collateral to seize value {seizedValueUsd} exceeds allowed maximum " ++
      s!"(liquidation_bonus_rate) of repay value {maxCollateralValueAllowed} " ++
      "(borrower protection)"))
  ensure (¬ (badDebt = true ∧ debtUnderlying.val ≤ sent.val ∧ sent.val < debtPayoff.val))
    (illegalArgument ("Cancelling all scaled debt against a zero-value remainder requires the " ++
      "ceiled payoff amount"))
  checkPostHealth contract reserve quoted.prices postCollateral newScaledDebt badDebt
  let badDebtUnderlying ← badDebtLoss badDebt newScaledDebt reserve.borrowIndex
  return { sent, actualRepay, scaledRepay, newScaledDebt, seizedValueUsd, postCollateral, badDebt,
           badDebtUnderlying }

/-- What a plan of a successful call satisfies. -/
structure LiquidationPlan.Valid (ownership : Ownership) (c : ContractStateV1)
    (info : MessageInfo) (t : LiquidationTarget) (seize : Amounts) (p : LiquidationPlan) :
    Prop where
  funds : info.funds = [⟨c.lendingDenom.name, p.sent⟩]
  repay_eq : p.actualRepay = p.sent.min t.debtPayoff
  scaledRepay_eq : scaledRepayFor p.actualRepay t.debtPayoff t.scaledDebt
    t.reserve.borrowIndex = .ok p.scaledRepay
  scaledRepay_pos : 0 < p.scaledRepay.val
  newDebt_eq : p.newScaledDebt.val + p.scaledRepay.val = t.scaledDebt.val
  nonempty : holdsPriceableCollateral t.quoted t.collateral = true →
    (normalizeSeizeMap seize).isEmpty = false
  seizable : ∀ e ∈ seize.toList, e.2.val ≠ 0 → SeizableEntry c t.collateral t.quoted e
  seizedValue_eq : p.seizedValueUsd.atomics = totalMarketValue t.quoted.prices seize
  taken : Taken t.collateral ((normalizeSeizeMap seize).toList.map entryCoin) p.postCollateral
  badDebt_iff : p.badDebt = true ↔ 0 < p.newScaledDebt.val ∧
    collateralValue t.quoted.prices c.supportedCollateralAssets p.postCollateral = 0
  ownerGate : requireOwnerForUnpriceable ownership info.sender c t.quoted t.collateral
    t.debtUnderlying p.badDebt p.postCollateral t.directedFill = .ok ()
  values : ∃ price, t.quoted.prices[c.lendingDenom.name]? = some price ∧
    price.isZeroPrice = false ∧
    (p.badDebt = true →
      pricedMarketValue t.quoted t.collateral < price.valueAtomics t.debtPayoff.val) ∧
    (p.badDebt = true ∨ (p.newScaledDebt.val = 0 ∧ p.seizedValueUsd.atomics = 0) ∨
      price.valueAtomics p.actualRepay.val ≤ p.seizedValueUsd.atomics) ∧
    p.seizedValueUsd.atomics ≤
      price.valueAtomics p.actualRepay.val * c.liquidationBonusRate.atomics / decimalFractional
  ceiled : ¬ (p.badDebt = true ∧ t.debtUnderlying.val ≤ p.sent.val ∧
    p.sent.val < t.debtPayoff.val)
  postHealth : checkPostHealth c t.reserve t.quoted.prices p.postCollateral p.newScaledDebt
    p.badDebt = .ok ()
  loss : badDebtLoss p.badDebt p.newScaledDebt t.reserve.borrowIndex = .ok p.badDebtUnderlying

/-- A request without a positive amount passes only where it is allowed. -/
theorem checkSeizeNotEmpty_ok {allow empty : Bool} {m : String} {u : Unit}
    (h : checkSeizeNotEmpty allow empty m = .ok u) : allow = true ∨ empty = false := by
  unfold checkSeizeNotEmpty at h
  split at h
  · exact Or.inl ‹_›
  · exact Or.inr (ensure_eq_ok.mp h)

theorem planLiquidation_spec {o : Ownership} {c : ContractStateV1} {info : MessageInfo}
    {t : LiquidationTarget} {seize : Amounts} {p : LiquidationPlan}
    (h : planLiquidation o c info t seize = .ok p) : p.Valid o c info t seize := by
  simp only [planLiquidation, bind_eq_ok, ensure_eq_ok, exists_const, okOr_eq_ok,
    validateSingleCoinDenom_eq_ok, Uint.checkedSub_eq_some, Decimal256.checkedMul_eq_ok,
    pure_eq_ok] at h
  obtain ⟨price, hprice, hnonzero, sent, ⟨hfunds, -⟩, scaled, hscaled, hpos, new, hnew, repayUsd,
    hrepayUsd, cap, hcap, -, -, seized, hseized, _, hempty, post, hpost, postUsd, hpostUsd,
    _, hgate, preUsd, hpreUsd, payoffUsd, hpayoffUsd, hsolvent, hfloor, hle, hceiled, _, hhealth,
    loss, hloss, rfl⟩ := h
  obtain ⟨hseizedUsd, hseizable⟩ := addSeizedValue_foldlM hseized
  have hbad : (decide (0 < new.val) && postUsd.isZero) = true ↔ 0 < new.val ∧
      collateralValue t.quoted.prices c.supportedCollateralAssets post = 0 := by
    rw [Bool.and_eq_true, decide_eq_true_iff, Decimal256.isZero_iff,
      calculateTotalCollateralValueUsd_eq hpostUsd]
  generalize (decide (0 < new.val) && postUsd.isZero) = badDebt at *
  exact {
    funds := hfunds
    repay_eq := rfl
    scaledRepay_eq := hscaled
    scaledRepay_pos := hpos
    newDebt_eq := hnew
    nonempty := fun hholds => by
      rcases checkSeizeNotEmpty_ok hempty with hallow | hne
      · simp [hholds] at hallow
      · exact hne
    seizable := hseizable
    seizedValue_eq := hseizedUsd
    taken := Taken.foldlM (fun _ _ _ he => Taken.takeAmount he) hpost
    badDebt_iff := hbad
    ownerGate := hgate
    values := by
      refine ⟨price, hprice, hnonzero, fun hb => ?_, ?_, ?_⟩
      · have hlt : ¬ payoffUsd ≤ preUsd := fun hle => hsolvent ⟨hb, hle⟩
        rw [Decimal256.le_def, AssetPriceResponseV1.valueUsd_ok hpayoffUsd,
          addMarketValue_foldlM hpreUsd] at hlt
        omega
      · rw [← AssetPriceResponseV1.valueUsd_ok hrepayUsd]
        rcases hfloor with hwaived | hfloor
        · rcases Bool.or_eq_true_iff.mp hwaived with hb | hclear
          · exact Or.inl hb
          · exact Or.inr (Or.inl (by simpa [Decimal256.isZero] using hclear))
        · exact Or.inr (Or.inr hfloor)
      · rw [← AssetPriceResponseV1.valueUsd_ok hrepayUsd, ← hcap]
        exact hle
    ceiled := hceiled
    postHealth := hhealth
    loss := hloss }

/-! ## The settlement -/

/-- The debt leaves the total, and the loss of a write-off is booked. -/
def bookRepayment (contract : ContractStateV1) (reserve : ReserveStateV1)
    (plan : LiquidationPlan) : ContractResult ReserveStateV1 :=
  if plan.badDebt then do
    let totalSub ← okOr (plan.scaledRepay.checkedAdd plan.newScaledDebt)
      (illegalState "scaled repay + writeoff overflow")
    let totalScaledBorrow ← okOr (reserve.totalScaledBorrow.checkedSub totalSub)
      (illegalState "total_scaled_borrow underflow")
    let reserve := { reserve with totalScaledBorrow }
    match contract.badDebtLossAllocation with
    | .immediateLiquidityIndexHaircut =>
      applyProRataLiquidityIndexHaircut reserve plan.badDebtUnderlying
    | .deferredToDeficit =>
      let deficitUnderlying ← okOr (reserve.deficitUnderlying.checkedAdd plan.badDebtUnderlying)
        (illegalState "deficit_underlying overflow")
      return { reserve with deficitUnderlying }
  else do
    let totalScaledBorrow ← okOr (reserve.totalScaledBorrow.checkedSub plan.scaledRepay)
      (illegalState "total_scaled_borrow underflow")
    return { reserve with totalScaledBorrow }

/-- One amount leaves the pool: it joins the coins to send and leaves the totals. -/
def sendOutEntry (out : Amounts × PoolStorage) (entry : String × Uint128) :
    ContractResult (Amounts × PoolStorage) := do
  let slot ← okOr ((amountOf out.1 entry.1).checkedAdd entry.2)
    (illegalState "outgoing collateral amount overflow")
  let store ← out.2.subtractTotalCollateral entry.1 entry.2
  return (out.1.insert entry.1 slot, store)

/-- What a write-off sweeps: the non-zero rest of the collateral. -/
def sweptCollateral (plan : LiquidationPlan) : Amounts :=
  if plan.badDebt then normalizeSeizeMap plan.postCollateral else ∅

/-- A directed fill shrinks the offer, and clears it when nothing is left. -/
def shrinkOffer (store : PoolStorage) (target : LiquidationTarget) (collateralToSeize : Amounts) :
    PoolStorage :=
  if target.directedFill then
    match target.offer with
    | none => store
    | some offer =>
      let remaining := subtractSeize offer.amounts collateralToSeize
      if remaining.isEmpty then store.clearDirectedSaleOffer target.borrower
      else store.setDirectedSaleOffer target.borrower ⟨remaining, offer.expiresAt⟩
  else store

/-- The attributes of a write-off. -/
def addBadDebtAttributes (res : Response) (contract : ContractStateV1) (reserve : ReserveStateV1)
    (plan : LiquidationPlan) : Response :=
  if plan.badDebt then
    let res := res.addText "bad_debt_underlying" (toString plan.badDebtUnderlying)
      |>.addText "deficit_underlying" (toString reserve.deficitUnderlying)
      |>.addText "bad_debt_loss_allocation" contract.badDebtLossAllocation.asStr
    let swept := sweptCollateral plan
    if swept.isEmpty then res
    else res.addAttribute "swept_collateral_json" (.amounts swept.toList)
  else res

/-- Coins are sent only when there are some. -/
def addSend (res : Response) (toAddress : Addr) (coins : List Coin) : Response :=
  if coins = [] then res else res.addMessage (.bankSend toAddress coins)

/-- The excess of the attached coins goes back. -/
def addExcess (res : Response) (toAddress : Addr) (denom : String) (sent used : Uint128) :
    Response :=
  if used.val < sent.val then
    res.addMessage (.bankSend toAddress [⟨denom, sent.saturatingSub used⟩])
  else res

/-- Write a plan to the books, and pay the liquidator. -/
def settleLiquidation (store : PoolStorage) (contract : ContractStateV1) (info : MessageInfo)
    (target : LiquidationTarget) (plan : LiquidationPlan) (collateralToSeize : Amounts) :
    ContractResult (PoolStorage × Response) := do
  let storedDebt := if plan.badDebt then 0 else plan.newScaledDebt
  let store := store.setScaledBorrow target.borrower storedDebt
  let reserve ← bookRepayment contract target.reserve plan
  let store := store.setReserveStateV1 reserve
  let toSeize := (normalizeSeizeMap collateralToSeize).toList
  let (outgoing, store) ← (toSeize ++ (sweptCollateral plan).toList).foldlM sendOutEntry (∅, store)
  let storedCollateral := if plan.badDebt then ∅ else plan.postCollateral
  let store := store.setBorrowerCollateral target.borrower storedCollateral
  let store := shrinkOffer store target collateralToSeize
  let res := Response.new.addText "action" "liquidate"
    |>.addText "liquidator" info.sender
    |>.addText "borrower" target.borrower
    |>.addText "amount" (toString plan.actualRepay)
    |>.addText "scaled_amount" (toString plan.scaledRepay)
    |>.addAttribute "collateral_json" (.amounts toSeize)
    |>.addText "liquidation_access" contract.liquidationAccess.asStr
    |>.addText "directed_sale" (toString target.directedFill)
  let res := addSend res info.sender (outgoing.toList.map entryCoin)
  let res := addBadDebtAttributes res contract reserve plan
  let res := addExcess res info.sender contract.lendingDenom.name plan.sent plan.actualRepay
  let res ← res.attachRates reserve contract.rateParams
  return (store, res)

/-- Find the target, plan, and settle. -/
def liquidate (deps : Deps) (store : PoolStorage) (env : Env) (info : MessageInfo)
    (borrower : String) (collateralToSeize : Amounts) :
    ContractResult (PoolStorage × Response) := do
  let target ← liquidationTarget deps store env info borrower collateralToSeize
  let store := store.setReserveStateV1 target.reserve
  let plan ← planLiquidation store.ownership store.contract info target collateralToSeize
  settleLiquidation store store.contract info target plan collateralToSeize

/-! ## What a liquidation does -/

/-- A booking takes the cancelled debt off the total.  A write-off cancels the
rest of the debt too, and its loss lowers the index or adds to the deficit. -/
theorem bookRepayment_spec {c : ContractStateV1} {r r' : ReserveStateV1} {p : LiquidationPlan}
    (h : bookRepayment c r p = .ok r') :
    ∃ total : Uint128,
      (p.badDebt = false ∧ total.val + p.scaledRepay.val = r.totalScaledBorrow.val ∧
        r' = { r with totalScaledBorrow := total }) ∨
      (p.badDebt = true ∧
        total.val + (p.scaledRepay.val + p.newScaledDebt.val) = r.totalScaledBorrow.val ∧
        ((c.badDebtLossAllocation = .immediateLiquidityIndexHaircut ∧
            applyProRataLiquidityIndexHaircut { r with totalScaledBorrow := total }
              p.badDebtUnderlying = .ok r') ∨
          (c.badDebtLossAllocation = .deferredToDeficit ∧
            r'.deficitUnderlying.val = r.deficitUnderlying.val + p.badDebtUnderlying.val ∧
            r' = { r with totalScaledBorrow := total
                          deficitUnderlying := r'.deficitUnderlying }))) := by
  unfold bookRepayment at h
  cases hbad : p.badDebt with
  | false =>
    rw [hbad, if_neg Bool.false_ne_true] at h
    simp only [bind_eq_ok, okOr_eq_ok, Uint.checkedSub_eq_some, pure_eq_ok] at h
    obtain ⟨total, htotal, rfl⟩ := h
    exact ⟨total, Or.inl ⟨rfl, htotal, rfl⟩⟩
  | true =>
    rw [hbad, if_pos rfl] at h
    simp only [bind_eq_ok, okOr_eq_ok, Uint.checkedSub_eq_some, Uint.checkedAdd_eq_some] at h
    obtain ⟨cancelled, hcancelled, total, htotal, h⟩ := h
    refine ⟨total, Or.inr ⟨rfl, by omega, ?_⟩⟩
    cases halloc : c.badDebtLossAllocation with
    | immediateLiquidityIndexHaircut =>
      rw [halloc] at h
      exact Or.inl ⟨rfl, h⟩
    | deferredToDeficit =>
      rw [halloc] at h
      simp only [bind_eq_ok, okOr_eq_ok, Uint.checkedAdd_eq_some, pure_eq_ok] at h
      obtain ⟨deficit, hdeficit, rfl⟩ := h
      exact Or.inr ⟨rfl, hdeficit, rfl⟩

/-- A booking writes the total debt, the index and the deficit.  The total goes down
by all the debt that is cancelled. -/
theorem bookRepayment_frame {c : ContractStateV1} {r r' : ReserveStateV1} {p : LiquidationPlan}
    (h : bookRepayment c r p = .ok r') :
    r' = { r with
      totalScaledBorrow := r'.totalScaledBorrow
      liquidityIndex := r'.liquidityIndex
      deficitUnderlying := r'.deficitUnderlying } ∧
    r'.totalScaledBorrow.val + p.scaledRepay.val +
      (if p.badDebt then p.newScaledDebt.val else 0) = r.totalScaledBorrow.val := by
  obtain ⟨total, ⟨hbad, htotal, hr'⟩ | ⟨hbad, htotal, ⟨-, hcut⟩ | ⟨-, -, hr'⟩⟩⟩ :=
    bookRepayment_spec h
  · rw [hr', hbad]
    exact ⟨rfl, htotal⟩
  · rw [applyHaircut_frame hcut, hbad]
    exact ⟨rfl, by simpa [Nat.add_assoc] using htotal⟩
  · rw [hr', hbad]
    exact ⟨rfl, by simpa [Nat.add_assoc] using htotal⟩

/-- The loop over what leaves the pool collects the coins and takes them off the
totals. -/
theorem sendOutEntry_foldlM {l : List (String × Uint128)} {out out' : Amounts}
    {s s' : PoolStorage} (h : l.foldlM sendOutEntry (out, s) = .ok (out', s')) :
    Added out (l.map entryCoin) out' ∧
      Taken s.totalCollateralByAsset (l.map entryCoin) s'.totalCollateralByAsset ∧
      s' = { s with totalCollateralByAsset := s'.totalCollateralByAsset } := by
  have hloop := foldlM_ok_induct
    (fun done (b : Amounts × PoolStorage) => Added out (done.map entryCoin) b.1 ∧
      Taken s.totalCollateralByAsset (done.map entryCoin) b.2.totalCollateralByAsset ∧
      b.2 = { s with totalCollateralByAsset := b.2.totalCollateralByAsset })
    (fun done e b b' hb he => by
      obtain ⟨hadded, htaken, hb⟩ := hb
      simp only [sendOutEntry, PoolStorage.subtractTotalCollateral, bind_eq_ok, okOr_eq_ok,
        Uint.checkedAdd_eq_some, Uint.checkedSub_eq_some, pure_eq_ok] at he
      obtain ⟨slot, hslot, _, ⟨total, htotal, rfl⟩, rfl⟩ := he
      rw [List.map_append]
      refine ⟨hadded.append (Added.insert (c := entryCoin e) hslot),
        htaken.append (Taken.put (c := entryCoin e) htotal), ?_⟩
      dsimp only
      rw [hb]
      rfl) ⟨Added.nil _, Taken.nil _, rfl⟩ h
  exact hloop

/-- The coins that leave the pool for the liquidator: the seizure, and the sweep
of a write-off. -/
def seizedCoins (plan : LiquidationPlan) (collateralToSeize : Amounts) : List Coin :=
  ((normalizeSeizeMap collateralToSeize).toList ++ (sweptCollateral plan).toList).map entryCoin

/-- The message that sends coins, if there are any. -/
def sendMessages (toAddress : Addr) (coins : List Coin) : List CosmosMsg :=
  if coins = [] then [] else [.bankSend toAddress coins]

theorem addSend_messages (res : Response) (a : Addr) (coins : List Coin) :
    (addSend res a coins).messages = res.messages ++ sendMessages a coins := by
  unfold addSend sendMessages
  split <;> simp

/-- The message that returns the excess, if there is any. -/
def refundOf (toAddress : Addr) (denom : String) (sent used : Uint128) : List CosmosMsg :=
  if used.val < sent.val then [.bankSend toAddress [⟨denom, sent.saturatingSub used⟩]] else []

theorem addExcess_messages (res : Response) (a : Addr) (denom : String) (sent used : Uint128) :
    (addExcess res a denom sent used).messages = res.messages ++ refundOf a denom sent used := by
  unfold addExcess refundOf
  split <;> simp

theorem addBadDebtAttributes_messages (res : Response) (c : ContractStateV1)
    (r : ReserveStateV1) (p : LiquidationPlan) :
    (addBadDebtAttributes res c r p).messages = res.messages := by
  unfold addBadDebtAttributes
  split
  · dsimp only
    split <;> rfl
  · rfl

/-- A settlement is a booking, the loop over what leaves the pool, and the rates of its
report. -/
theorem settleLiquidation_stages {s s' : PoolStorage} {c : ContractStateV1} {info : MessageInfo}
    {t : LiquidationTarget} {p : LiquidationPlan} {seize : Amounts} {res : Response}
    (h : settleLiquidation s c info t p seize = .ok (s', res)) :
    ∃ (r' : ReserveStateV1) (outgoing : Amounts) (store : PoolStorage) (report : Response),
      bookRepayment c t.reserve p = .ok r' ∧
      ((normalizeSeizeMap seize).toList ++ (sweptCollateral p).toList).foldlM sendOutEntry
        (∅, (s.setScaledBorrow t.borrower
          (if p.badDebt then 0 else p.newScaledDebt)).setReserveStateV1 r') =
        .ok (outgoing, store) ∧
      report.attachRates r' c.rateParams = .ok res ∧
      s' = shrinkOffer
        { ((s.setScaledBorrow t.borrower
              (if p.badDebt then 0 else p.newScaledDebt)).setReserveStateV1
            r').setBorrowerCollateral t.borrower (if p.badDebt then ∅ else p.postCollateral) with
          totalCollateralByAsset := store.totalCollateralByAsset } t seize ∧
      res.messages = sendMessages info.sender (outgoing.toList.map entryCoin) ++
        refundOf info.sender c.lendingDenom.name p.sent p.actualRepay := by
  simp only [settleLiquidation, bind_eq_ok, Prod.exists, pure_eq_ok, Prod.mk.injEq] at h
  obtain ⟨r', hbook, outgoing, store, hloop, res₁, hres₁, rfl, rfl⟩ := h
  obtain ⟨-, -, hstore⟩ := sendOutEntry_foldlM hloop
  refine ⟨r', outgoing, store, _, hbook, hloop, hres₁, ?_, ?_⟩
  · rw [hstore]
    rfl
  · rw [attachRates_messages hres₁, addExcess_messages, addBadDebtAttributes_messages,
      addSend_messages]
    rfl

theorem settleLiquidation_spec {s s' : PoolStorage} {c : ContractStateV1} {info : MessageInfo}
    {t : LiquidationTarget} {p : LiquidationPlan} {seize : Amounts} {res : Response}
    (h : settleLiquidation s c info t p seize = .ok (s', res)) :
    ∃ (r' : ReserveStateV1) (outgoing totals : Amounts),
      bookRepayment c t.reserve p = .ok r' ∧
      Added ∅ (seizedCoins p seize) outgoing ∧
      Taken s.totalCollateralByAsset (seizedCoins p seize) totals ∧
      s' = shrinkOffer
        { ((s.setScaledBorrow t.borrower
              (if p.badDebt then 0 else p.newScaledDebt)).setReserveStateV1
            r').setBorrowerCollateral t.borrower (if p.badDebt then ∅ else p.postCollateral) with
          totalCollateralByAsset := totals } t seize ∧
      res.messages = sendMessages info.sender (outgoing.toList.map entryCoin) ++
        refundOf info.sender c.lendingDenom.name p.sent p.actualRepay := by
  obtain ⟨r', outgoing, store, -, hbook, hloop, -, hs', hmessages⟩ := settleLiquidation_stages h
  obtain ⟨hadded, htaken, -⟩ := sendOutEntry_foldlM hloop
  exact ⟨r', outgoing, store.totalCollateralByAsset, hbook, hadded, htaken, hs', hmessages⟩

/-- The settlement of an offer writes the offers only. -/
theorem shrinkOffer_eq (s : PoolStorage) (t : LiquidationTarget) (seize : Amounts) :
    shrinkOffer s t seize =
      { s with directedSaleOffer := (shrinkOffer s t seize).directedSaleOffer } := by
  unfold shrinkOffer
  split
  · split
    · rfl
    · dsimp only
      split <;> rfl
  · rfl

/-- A liquidation is a target, a plan for it, and the settlement of the plan. -/
theorem liquidate_stages {deps : Deps} {s s' : PoolStorage} {env : Env} {info : MessageInfo}
    {borrower : String} {seize : Amounts} {res : Response}
    (h : liquidate deps s env info borrower seize = .ok (s', res)) :
    ∃ t p, liquidationTarget deps s env info borrower seize = .ok t ∧
      planLiquidation s.ownership s.contract info t seize = .ok p ∧
      settleLiquidation (s.setReserveStateV1 t.reserve) s.contract info t p seize =
        .ok (s', res) := by
  simp only [liquidate, bind_eq_ok] at h
  obtain ⟨t, ht, p, hp, hsettle⟩ := h
  exact ⟨t, p, ht, hp, hsettle⟩

/-- What the three stages establish. -/
theorem liquidate_spec {deps : Deps} {s s' : PoolStorage} {env : Env} {info : MessageInfo}
    {borrower : String} {seize : Amounts} {res : Response}
    (h : liquidate deps s env info borrower seize = .ok (s', res)) :
    ∃ (t : LiquidationTarget) (p : LiquidationPlan) (r' : ReserveStateV1)
      (outgoing totals : Amounts),
      t.Valid deps s env info borrower seize ∧
      p.Valid s.ownership s.contract info t seize ∧
      bookRepayment s.contract t.reserve p = .ok r' ∧
      Added ∅ (seizedCoins p seize) outgoing ∧
      Taken s.totalCollateralByAsset (seizedCoins p seize) totals ∧
      s' = shrinkOffer
        { ((s.setScaledBorrow t.borrower
              (if p.badDebt then 0 else p.newScaledDebt)).setReserveStateV1
            r').setBorrowerCollateral t.borrower (if p.badDebt then ∅ else p.postCollateral) with
          totalCollateralByAsset := totals } t seize ∧
      res.messages = sendMessages info.sender (outgoing.toList.map entryCoin) ++
        refundOf info.sender s.contract.lendingDenom.name p.sent p.actualRepay := by
  obtain ⟨t, p, ht, hp, hsettle⟩ := liquidate_stages h
  obtain ⟨r', outgoing, totals, hbook, hadded, htaken, rfl, hmessages⟩ :=
    settleLiquidation_spec hsettle
  exact ⟨t, p, r', outgoing, totals, liquidationTarget_spec ht, planLiquidation_spec hp, hbook,
    hadded, htaken, rfl, hmessages⟩

end DemocratizedPrime
