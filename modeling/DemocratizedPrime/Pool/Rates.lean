import DemocratizedPrime.Pool.Response

/-!
# Rates, indexes and conversions

The kink curve gives the borrower's rate.  The lender's rate and the protocol's
fee split what the borrowers pay.  `computeEffectiveReserve` accrues the interest
of the whole seconds since the last accrual: both indexes grow by a factor that
is linear in time, and the fee is booked in base units.

A conversion between scaled units and base units is rounded down, except the two
that must not favour the borrower: `underlyingToScaledBorrowCeil` for new debt,
and `scaledToUnderlyingBorrowCeil` for the price of closing a debt.

Each conversion has one equation that says what a successful call returns.
-/

namespace DemocratizedPrime

open Result

/-! ## The curve -/

/-- The borrower's rate below the kink. -/
def rateBelowKink (params : RateParamsV1) (utilization : Decimal256) :
    ContractResult Decimal256 :=
  if params.kinkUtilization.isZero then return params.minRate
  else do
    let range ← params.targetRate.checkedSub params.minRate
    let slope ← range.checkedDiv params.kinkUtilization
    let growth ← slope.checkedMul utilization
    params.minRate.checkedAdd growth

/-- The borrower's rate above the kink, capped at `maxRate`. -/
def rateAboveKink (params : RateParamsV1) (utilization : Decimal256) :
    ContractResult Decimal256 := do
  let aboveKink ← Decimal256.one.checkedSub params.kinkUtilization
  if aboveKink.isZero then return params.maxRate
  else
    let excess ← utilization.checkedSub params.kinkUtilization
    let range ← params.maxRate.checkedSub params.targetRate
    let slope ← range.checkedDiv aboveKink
    let growth ← slope.checkedMul excess
    let rate ← params.targetRate.checkedAdd growth
    return rate.min params.maxRate

/-- The kink curve. -/
def borrowerRateFromUtilization (params : RateParamsV1) (utilization : Decimal256) :
    ContractResult Decimal256 :=
  if utilization ≤ params.kinkUtilization then rateBelowKink params utilization
  else rateAboveKink params utilization

/-- What the lenders earn: their part of the borrower's rate, on what is lent out. -/
def lenderRateFromUtilization (params : RateParamsV1) (utilization borrowerRate : Decimal256) :
    ContractResult Decimal256 :=
  match params.feeModel with
  | .reserveFactor => do
    let keep ← Decimal256.one.checkedSub params.reserveFactor
    let lenderMult ← utilization.checkedMul keep
    borrowerRate.checkedMul lenderMult
  | .flatBorrowSpread => do
    let spread ← borrowerRate.checkedSub params.flatFeeApr
    spread.checkedMul utilization

/-- The protocol's share of the borrower's rate. -/
def protocolFeeRate (params : RateParamsV1) (borrowerRate : Decimal256) :
    ContractResult Decimal256 :=
  match params.feeModel with
  | .reserveFactor => borrowerRate.checkedMul params.reserveFactor
  | .flatBorrowSpread => return params.flatFeeApr

/-! ## Accrual -/

/-- Whole seconds between two points in time, and zero backwards. -/
def timeElapsedSeconds (start stop : Timestamp) : Nat := stop.seconds - start.seconds

/-- `1 + rate · elapsed / year`. -/
def indexGrowthFactor (rate : Decimal256) (elapsedSeconds yearSeconds : Nat) :
    ContractResult Decimal256 :=
  if elapsedSeconds = 0 then return Decimal256.one
  else do
    let timeFraction ← Decimal256.fromRatio elapsedSeconds yearSeconds
    let growth ← rate.checkedMul timeFraction
    Decimal256.one.checkedAdd growth

/-- The whole units of a decimal, if they fit. -/
def decimalFloorToU128 (value : Decimal256) : ContractResult Uint128 :=
  okOr (Uint.ofNat? 128 (value.atomics / decimalFractional))
    (illegalState "protocol fee overflow")

/-- The fee that the protocol books for `elapsed` seconds, from the debt before
the accrual. -/
def protocolFee (params : RateParamsV1) (totalBorrowBefore borrowerRate : Decimal256)
    (elapsed : Nat) : ContractResult Uint128 := do
  let timeFraction ← Decimal256.fromRatio elapsed secondsPerYear
  let feeRate ← protocolFeeRate params borrowerRate
  let yearly ← totalBorrowBefore.checkedMul feeRate
  let fee ← yearly.checkedMul timeFraction
  decimalFloorToU128 fee

/-- The accrual of a positive number of seconds. -/
def accrueInterest (reserve : ReserveStateV1) (asOfTime : Timestamp) (elapsed : Nat)
    (params : RateParamsV1) : ContractResult ReserveStateV1 := do
  let totalBorrowBefore ← reserve.totalBorrow
  let utilization ← reserve.utilization
  let borrowerRate ← borrowerRateFromUtilization params utilization
  let lenderRate ← lenderRateFromUtilization params utilization borrowerRate
  let liFactor ← indexGrowthFactor lenderRate elapsed secondsPerYear
  let biFactor ← indexGrowthFactor borrowerRate elapsed secondsPerYear
  let newLi ← reserve.liquidityIndex.checkedMul liFactor
  let newBi ← reserve.borrowIndex.checkedMul biFactor
  let fee ← protocolFee params totalBorrowBefore borrowerRate elapsed
  return { reserve with
    liquidityIndex := newLi
    borrowIndex := newBi
    lastUpdatedAt := asOfTime
    accruedReserve := reserve.accruedReserve.saturatingAdd fee }

/-- The reserve as of a point in time.  Within the second of the last accrual
nothing changes, not even the time stamp. -/
def computeEffectiveReserve (store : PoolStorage) (asOfTime : Timestamp)
    (params : RateParamsV1) : ContractResult ReserveStateV1 :=
  let elapsed := timeElapsedSeconds store.reserve.lastUpdatedAt asOfTime
  if elapsed = 0 then return store.reserve
  else accrueInterest store.reserve asOfTime elapsed params

/-- Accrue to the block time and save. -/
def updateReserveIndexes (store : PoolStorage) (env : Env) (params : RateParamsV1) :
    ContractResult (PoolStorage × ReserveStateV1) := do
  let reserve ← computeEffectiveReserve store env.blockTime params
  return (store.setReserveStateV1 reserve, reserve)

/-! ## Conversions -/

/-- Base units to scaled units, rounded down. -/
def underlyingToScaled (zeroIndexMessage overflowMessage : String) (underlying : Uint128)
    (index : Decimal256) : ContractResult Uint128 := do
  ensure (index.isZero = false) (illegalState zeroIndexMessage)
  let underlyingD ← Decimal256.fromRatio underlying.val 1
  let scaledD ← underlyingD.checkedDiv index
  okOr (Uint.ofNat? 128 (scaledD.atomics / decimalFractional)) (illegalState overflowMessage)

/-- The scaled units of a deposit. -/
def underlyingToScaledLiquidity : Uint128 → Decimal256 → ContractResult Uint128 :=
  underlyingToScaled "liquidity_index is zero" "scaled liquidity overflow"

/-- The scaled units that a repayment cancels. -/
def underlyingToScaledBorrow : Uint128 → Decimal256 → ContractResult Uint128 :=
  underlyingToScaled "borrow_index is zero" "scaled borrow overflow"

/-- The whole units of a decimal, rounded up. -/
def ceilUnits (value : Decimal256) : Nat :=
  if value.atomics % decimalFractional = 0 then value.atomics / decimalFractional
  else value.atomics / decimalFractional + 1

/-- New debt in scaled units: the truncated quotient, rounded up. -/
def underlyingToScaledBorrowCeil (underlying : Uint128) (borrowIndex : Decimal256) :
    ContractResult Uint128 := do
  ensure (borrowIndex.isZero = false) (illegalState "borrow_index is zero")
  let underlyingD ← Decimal256.fromRatio underlying.val 1
  let scaledD ← underlyingD.checkedDiv borrowIndex
  okOr (Uint.ofNat? 128 (ceilUnits scaledD)) (illegalState "scaled borrow overflow")

/-- Scaled units to base units, rounded down. -/
def scaledToUnderlying (overflowMessage : String) (scaled : Uint128) (index : Decimal256) :
    ContractResult Uint128 := do
  let scaledD ← Decimal256.fromRatio scaled.val 1
  let underlyingD ← scaledD.checkedMul index
  okOr (Uint.ofNat? 128 (underlyingD.atomics / decimalFractional)) (illegalState overflowMessage)

/-- What scaled units of the lenders are worth. -/
def scaledToUnderlyingLiquidity : Uint128 → Decimal256 → ContractResult Uint128 :=
  scaledToUnderlying "underlying liquidity overflow"

/-- What scaled units of debt are worth. -/
def scaledToUnderlyingBorrow : Uint128 → Decimal256 → ContractResult Uint128 :=
  scaledToUnderlying "underlying borrow overflow"

/-- The price of closing a debt, `ceil(scaled · borrow_index)`. -/
def scaledToUnderlyingBorrowCeil (scaled : Uint128) (borrowIndex : Decimal256) :
    ContractResult Uint128 := do
  let scaledD ← Decimal256.fromRatio scaled.val 1
  let underlyingD ← scaledD.checkedMul borrowIndex
  okOr (Uint.ofNat? 128 (ceilUnits underlyingD)) (illegalState "ceiled underlying borrow overflow")

/-- What a borrow of `amount` records. -/
structure DebtAfterBorrow where
  scaledDelta : Uint128
  newScaled : Uint128
  debtAfter : Uint128

/-- The scaled units to add, the scaled debt with them, and its value. -/
def debtAfterBorrow (currentScaled amount : Uint128) (borrowIndex : Decimal256) :
    ContractResult DebtAfterBorrow := do
  let scaledDelta ← underlyingToScaledBorrowCeil amount borrowIndex
  let newScaled ← okOr (currentScaled.checkedAdd scaledDelta)
    (illegalState "overflow: borrower scaled debt (current_scaled + scaled_delta)")
  let debtAfter ← scaledToUnderlyingBorrow newScaled borrowIndex
  return { scaledDelta, newScaled, debtAfter }

/-- Total liquidity, total borrow and cash, in whole base units. -/
structure ReserveTotals where
  totalLiquidity : Uint128
  totalBorrow : Uint128
  cash : Uint128

/-- The totals of the reserve, and the cash that they imply. -/
def reserveTotalsAndCashU128 (reserve : ReserveStateV1) : ContractResult ReserveTotals := do
  let totalLiquidity ←
    scaledToUnderlyingLiquidity reserve.totalScaledLiquidity reserve.liquidityIndex
  let totalBorrow ← scaledToUnderlyingBorrow reserve.totalScaledBorrow reserve.borrowIndex
  let cash := (totalLiquidity.saturatingSub totalBorrow).saturatingSub reserve.deficitUnderlying
  return { totalLiquidity, totalBorrow, cash }

/-! ## Losses -/

/-- Spread a loss over the lenders by lowering their index to
`(total_liquidity - loss) / total_scaled_liquidity`. -/
def applyProRataLiquidityIndexHaircut (reserve : ReserveStateV1) (underlyingLoss : Uint128) :
    ContractResult ReserveStateV1 :=
  if underlyingLoss.val = 0 then return reserve
  else do
    let l ← reserve.totalLiquidity
    ensure (l.isZero = false)
      (illegalState "cannot apply liquidity index haircut: total_liquidity is zero")
    let d ← Decimal256.fromRatio underlyingLoss.val 1
    ensure (d < l) (illegalState
      "bad debt loss meets or exceeds total_liquidity; cannot apply index-only haircut")
    let scaled ← Decimal256.fromRatio reserve.totalScaledLiquidity.val 1
    ensure (scaled.isZero = false)
      (illegalState "cannot apply liquidity index haircut: total_scaled_liquidity is zero")
    let remaining ← l.checkedSub d
    let newIndex ← remaining.checkedDiv scaled
    ensure (newIndex.isZero = false)
      (illegalState "liquidity index haircut would truncate liquidity_index to zero")
    return { reserve with liquidityIndex := newIndex }

/-! ## Rates on a response -/

/-- Add the current rates, indexes and utilization to a response. -/
def Response.attachRates (res : Response) (reserve : ReserveStateV1) (rateParams : RateParamsV1) :
    ContractResult Response := do
  let utilization ← reserve.utilization
  let newBorrowerRate ← borrowerRateFromUtilization rateParams utilization
  let newLenderRate ← lenderRateFromUtilization rateParams utilization newBorrowerRate
  return ((((res.addText "lend_rate" newLenderRate.toText).addText
    "borrow_rate" newBorrowerRate.toText).addText
    "liquidity_index" reserve.liquidityIndex.toText).addText
    "borrow_index" reserve.borrowIndex.toText).addText
    "utilization" utilization.toText

/-- The rates are attributes, so the messages of the response stay. -/
theorem attachRates_messages {res res' : Response} {r : ReserveStateV1} {p : RateParamsV1}
    (h : res.attachRates r p = .ok res') : res'.messages = res.messages := by
  simp only [Response.attachRates, bind_eq_ok, pure_eq_ok] at h
  obtain ⟨_, _, _, _, _, _, rfl⟩ := h
  rfl

/-- The attributes that are there stay. -/
theorem attachRates_attributes {res res' : Response} {r : ReserveStateV1} {p : RateParamsV1}
    (h : res.attachRates r p = .ok res') {a : String × AttributeValue} (ha : a ∈ res.attributes) :
    a ∈ res'.attributes := by
  simp only [Response.attachRates, bind_eq_ok, pure_eq_ok] at h
  obtain ⟨_, _, _, _, _, _, rfl⟩ := h
  simp [Response.addText, Response.addAttribute, ha]

/-! ## Saving an accrual -/

/-- `r` is the reserve of `s` with the interest up to `t`, charged with the
parameters that are stored. -/
def AccruedTo (s : PoolStorage) (t : Timestamp) (r : ReserveStateV1) : Prop :=
  computeEffectiveReserve s t s.contract.rateParams = .ok r

theorem updateReserveIndexes_eq_ok {s : PoolStorage} {env : Env}
    {x : PoolStorage × ReserveStateV1} :
    updateReserveIndexes s env s.contract.rateParams = .ok x ↔
      AccruedTo s env.blockTime x.2 ∧ x.1 = s.setReserveStateV1 x.2 := by
  simp only [updateReserveIndexes, bind_eq_ok, pure_eq_ok, AccruedTo]
  constructor
  · rintro ⟨r, hr, rfl⟩
    exact ⟨hr, rfl⟩
  · rintro ⟨hr, hx⟩
    exact ⟨x.2, hr, Prod.ext hx.symm rfl⟩

/-! ## What the conversions return -/

theorem underlyingToScaled_eq {z o : String} {u c : Uint128} {i : Decimal256}
    (h : underlyingToScaled z o u i = .ok c) :
    i.atomics ≠ 0 ∧ c.val = u.val * decimalFractional / i.atomics := by
  simp only [underlyingToScaled, bind_eq_ok, ensure_eq_ok, exists_const,
    Decimal256.fromRatio_one_eq_ok, Decimal256.checkedDiv_eq_ok, okOr_eq_ok,
    Uint.ofNat?_eq_some] at h
  obtain ⟨-, d, hd, q, ⟨hi, hq⟩, hc⟩ := h
  refine ⟨hi, ?_⟩
  rw [hc, hq, hd, Nat.div_div_eq_div_mul]
  exact Nat.mul_div_mul_right _ _ (by decide)

theorem scaledToUnderlying_eq {o : String} {s c : Uint128} {i : Decimal256}
    (h : scaledToUnderlying o s i = .ok c) :
    c.val = s.val * i.atomics / decimalFractional := by
  simp only [scaledToUnderlying, bind_eq_ok, Decimal256.fromRatio_one_eq_ok,
    Decimal256.checkedMul_eq_ok, okOr_eq_ok, Uint.ofNat?_eq_some] at h
  obtain ⟨d, hd, p, hp, hc⟩ := h
  rw [hc, hp, hd, Nat.mul_right_comm, Nat.mul_div_cancel _ (by decide)]

/-- The value of scaled units is computed whenever it fits. -/
theorem scaledToUnderlying_of_eq {o : String} {s c : Uint128} {i : Decimal256}
    (h : c.val = s.val * i.atomics / decimalFractional) : scaledToUnderlying o s i = .ok c := by
  have hc := c.isLt
  have hproduct : s.val * i.atomics < 2 ^ 256 := by
    rw [h] at hc
    unfold decimalFractional at hc
    omega
  simp only [scaledToUnderlying, bind_eq_ok, Decimal256.fromRatio_one_eq_ok,
    Decimal256.checkedMul_eq_ok, okOr_eq_ok, Uint.ofNat?_eq_some]
  refine ⟨⟨_, Decimal256.units_lt s⟩, rfl, ⟨_, hproduct⟩, ?_, h⟩
  rw [Nat.mul_right_comm, Nat.mul_div_cancel _ (by decide)]

theorem ceilUnits_eq (d : Decimal256) :
    ceilUnits d = (d.atomics + (decimalFractional - 1)) / decimalFractional := by
  unfold ceilUnits decimalFractional
  split <;> omega

theorem scaledToUnderlyingBorrowCeil_eq {s c : Uint128} {i : Decimal256}
    (h : scaledToUnderlyingBorrowCeil s i = .ok c) :
    c.val = (s.val * i.atomics + (decimalFractional - 1)) / decimalFractional := by
  simp only [scaledToUnderlyingBorrowCeil, bind_eq_ok, Decimal256.fromRatio_one_eq_ok,
    Decimal256.checkedMul_eq_ok, okOr_eq_ok, Uint.ofNat?_eq_some] at h
  obtain ⟨d, hd, p, hp, hc⟩ := h
  rw [hc, ceilUnits_eq, hp, hd, Nat.mul_right_comm, Nat.mul_div_cancel _ (by decide)]

/-- A closing price is computed whenever it fits. -/
theorem scaledToUnderlyingBorrowCeil_of_eq {s c : Uint128} {i : Decimal256}
    (h : c.val = (s.val * i.atomics + (decimalFractional - 1)) / decimalFractional) :
    scaledToUnderlyingBorrowCeil s i = .ok c := by
  have hc := c.isLt
  have hproduct : s.val * i.atomics < 2 ^ 256 := by
    rw [h] at hc
    unfold decimalFractional at hc
    omega
  simp only [scaledToUnderlyingBorrowCeil, bind_eq_ok, Decimal256.fromRatio_one_eq_ok,
    Decimal256.checkedMul_eq_ok, okOr_eq_ok, Uint.ofNat?_eq_some]
  refine ⟨⟨_, Decimal256.units_lt s⟩, rfl, ⟨_, hproduct⟩, ?_, ?_⟩
  · rw [Nat.mul_right_comm, Nat.mul_div_cancel _ (by decide)]
  · rw [ceilUnits_eq]
    exact h

/-- A price of closing that is not a `u128` is refused as such, where the debt itself is one. -/
theorem scaledToUnderlyingBorrowCeil_overflow {s d : Uint128} {i : Decimal256}
    (hdebt : d.val = s.val * i.atomics / decimalFractional)
    (h : 2 ^ 128 ≤ (s.val * i.atomics + (decimalFractional - 1)) / decimalFractional) :
    scaledToUnderlyingBorrowCeil s i =
      .error (illegalState "ceiled underlying borrow overflow") := by
  have hd := d.isLt
  have hproduct : s.val * i.atomics < 2 ^ 256 := by
    rw [hdebt] at hd
    unfold decimalFractional at hd
    omega
  have hscaled : Decimal256.fromRatio s.val 1 = .ok ⟨_, Decimal256.units_lt s⟩ :=
    Decimal256.fromRatio_one_eq_ok.mpr rfl
  have hvalue : Decimal256.checkedMul ⟨_, Decimal256.units_lt s⟩ i = .ok ⟨_, hproduct⟩ := by
    rw [Decimal256.checkedMul_eq_ok, Nat.mul_right_comm, Nat.mul_div_cancel _ (by decide)]
  have hnone : Uint.ofNat? 128 (ceilUnits ⟨_, hproduct⟩) = none := by
    rw [Uint.ofNat?_eq_none, ceilUnits_eq]
    exact h
  unfold scaledToUnderlyingBorrowCeil
  rw [hscaled, ok_bind, hvalue, ok_bind, hnone]
  rfl

/-- The quotient is truncated to 18 decimals before it is rounded up. -/
theorem underlyingToScaledBorrowCeil_eq {u c : Uint128} {i : Decimal256}
    (h : underlyingToScaledBorrowCeil u i = .ok c) :
    i.atomics ≠ 0 ∧ c.val =
      (u.val * decimalFractional * decimalFractional / i.atomics + (decimalFractional - 1)) /
        decimalFractional := by
  simp only [underlyingToScaledBorrowCeil, bind_eq_ok, ensure_eq_ok, exists_const,
    Decimal256.fromRatio_one_eq_ok, Decimal256.checkedDiv_eq_ok, okOr_eq_ok,
    Uint.ofNat?_eq_some] at h
  obtain ⟨-, d, hd, q, ⟨hi, hq⟩, hc⟩ := h
  exact ⟨hi, by rw [hc, ceilUnits_eq, hq, hd]⟩

theorem debtAfterBorrow_eq {s a : Uint128} {i : Decimal256} {d : DebtAfterBorrow}
    (h : debtAfterBorrow s a i = .ok d) :
    underlyingToScaledBorrowCeil a i = .ok d.scaledDelta ∧
      d.newScaled.val = s.val + d.scaledDelta.val ∧
      d.debtAfter.val = d.newScaled.val * i.atomics / decimalFractional := by
  simp only [debtAfterBorrow, bind_eq_ok, pure_eq_ok, okOr_eq_ok, Uint.checkedAdd_eq_some] at h
  obtain ⟨delta, hdelta, new, hnew, after, hafter, rfl⟩ := h
  exact ⟨hdelta, hnew, scaledToUnderlying_eq hafter⟩

theorem reserveTotalsAndCashU128_eq {r : ReserveStateV1} {t : ReserveTotals}
    (h : reserveTotalsAndCashU128 r = .ok t) :
    t.totalLiquidity.val =
        r.totalScaledLiquidity.val * r.liquidityIndex.atomics / decimalFractional ∧
      t.totalBorrow.val = r.totalScaledBorrow.val * r.borrowIndex.atomics / decimalFractional ∧
      t.cash.val = t.totalLiquidity.val - t.totalBorrow.val - r.deficitUnderlying.val := by
  simp only [reserveTotalsAndCashU128, bind_eq_ok, pure_eq_ok] at h
  obtain ⟨l, hl, b, hb, rfl⟩ := h
  exact ⟨scaledToUnderlying_eq hl, scaledToUnderlying_eq hb, rfl⟩

/-! ## What an accrual and a loss do -/

theorem totalLiquidity_eq_ok {r : ReserveStateV1} {l : Decimal256} :
    r.totalLiquidity = .ok l ↔
      l.atomics = r.totalScaledLiquidity.val * r.liquidityIndex.atomics := by
  have hcancel : r.totalScaledLiquidity.val * decimalFractional * r.liquidityIndex.atomics /
      decimalFractional = r.totalScaledLiquidity.val * r.liquidityIndex.atomics := by
    rw [Nat.mul_right_comm, Nat.mul_div_cancel _ (by decide)]
  simp only [ReserveStateV1.totalLiquidity, bind_eq_ok, Decimal256.fromRatio_one_eq_ok,
    Decimal256.checkedMul_eq_ok]
  constructor
  · rintro ⟨d, hd, hl⟩
    rw [hl, hd, hcancel]
  · intro hl
    exact ⟨⟨_, Decimal256.units_lt r.totalScaledLiquidity⟩, rfl, by rw [hl, hcancel]⟩

theorem totalBorrow_eq_ok {r : ReserveStateV1} {b : Decimal256} :
    r.totalBorrow = .ok b ↔
      b.atomics = r.totalScaledBorrow.val * r.borrowIndex.atomics := by
  have hcancel : r.totalScaledBorrow.val * decimalFractional * r.borrowIndex.atomics /
      decimalFractional = r.totalScaledBorrow.val * r.borrowIndex.atomics := by
    rw [Nat.mul_right_comm, Nat.mul_div_cancel _ (by decide)]
  simp only [ReserveStateV1.totalBorrow, bind_eq_ok, Decimal256.fromRatio_one_eq_ok,
    Decimal256.checkedMul_eq_ok]
  constructor
  · rintro ⟨d, hd, hb⟩
    rw [hb, hd, hcancel]
  · intro hb
    exact ⟨⟨_, Decimal256.units_lt r.totalScaledBorrow⟩, rfl, by rw [hb, hcancel]⟩

/-- A haircut changes the liquidity index only, and lowers it to the truncated
share of what is left. -/
theorem applyHaircut_eq {r r' : ReserveStateV1} {loss : Uint128}
    (h : applyProRataLiquidityIndexHaircut r loss = .ok r') (hpos : 0 < loss.val) :
    r' = { r with liquidityIndex := r'.liquidityIndex } ∧
      r.totalScaledLiquidity.val ≠ 0 ∧
      loss.val * decimalFractional < r.totalScaledLiquidity.val * r.liquidityIndex.atomics ∧
      r'.liquidityIndex.atomics =
        (r.totalScaledLiquidity.val * r.liquidityIndex.atomics - loss.val * decimalFractional) /
          r.totalScaledLiquidity.val ∧
      r'.liquidityIndex.atomics ≠ 0 := by
  unfold applyProRataLiquidityIndexHaircut at h
  rw [if_neg (by omega)] at h
  simp only [bind_eq_ok, ensure_eq_ok, exists_const, totalLiquidity_eq_ok,
    Decimal256.fromRatio_one_eq_ok, Decimal256.checkedSub_eq_ok, Decimal256.checkedDiv_eq_ok,
    Decimal256.lt_def, pure_eq_ok] at h
  obtain ⟨l, hl, -, d, hd, hdl, scaled, hs, hs0, rem, hrem, idx, ⟨-, hidx⟩, hidx0, rfl⟩ := h
  have hscaled : r.totalScaledLiquidity.val ≠ 0 := by
    intro h0
    rw [h0, Nat.zero_mul] at hs
    simp [Decimal256.isZero, hs] at hs0
  refine ⟨rfl, hscaled, by omega, ?_, ?_⟩
  · have hrem' : rem.atomics = l.atomics - d.atomics := by omega
    rw [hidx, hrem', hs, hl, hd]
    exact Nat.mul_div_mul_right _ _ (by decide)
  · simpa [Decimal256.isZero] using hidx0

theorem applyHaircut_zero {r r' : ReserveStateV1} {loss : Uint128}
    (h : applyProRataLiquidityIndexHaircut r loss = .ok r') (hzero : loss.val = 0) : r' = r := by
  unfold applyProRataLiquidityIndexHaircut at h
  rw [if_pos hzero] at h
  exact (pure_eq_ok.mp h).symm

/-- A haircut writes the liquidity index only. -/
theorem applyHaircut_frame {r r' : ReserveStateV1} {loss : Uint128}
    (h : applyProRataLiquidityIndexHaircut r loss = .ok r') :
    r' = { r with liquidityIndex := r'.liquidityIndex } := by
  by_cases hzero : loss.val = 0
  · rw [applyHaircut_zero h hzero]
  · exact (applyHaircut_eq h (by omega)).1

end DemocratizedPrime
