import DemocratizedPrime.Pool.Curve
import DemocratizedPrime.Pool.Pricing

/-!
# Code that can only overflow

A computation can end with a result that does not fit in its 128 or 256 bits, and the pool
reports that in many ways.  `IsArithmeticOverflow` lists them.  `OnlyOverflows x` says that
`x` has no other error, so no check in it refuses anything.

The lemmas follow the code, as those of `Pool.Errors` do.  Where a check guards against
something else, such as a price or an index of zero, its condition is a hypothesis.
-/

namespace DemocratizedPrime

open Result Decimal256

/-- The texts for an amount that does not fit in 128 bits. -/
def amountOverflows : List String :=
  ["scaled borrow overflow", "underlying borrow overflow", "ceiled underlying borrow overflow",
    "scaled repay + writeoff overflow", "deficit_underlying overflow",
    "outgoing collateral amount overflow"]

/-- The texts for a notional that does not fit in 256 bits. -/
def notionalOverflows : List String := ["USD notional overflow", "Price precision overflow"]

/-- The reasons of a panic that is an overflow. -/
def abortedOverflows : List String :=
  ["Multiplication overflow", "attempt to add with overflow"]

/-- The error of a result that does not fit in its 128 or 256 bits. -/
def IsArithmeticOverflow (e : ContractError) : Prop :=
  IsOverflow e ∨ e = .checkedFromRatioError .overflow ∨
    (∃ m ∈ notionalOverflows, e = .overflow m) ∨ (∃ m ∈ abortedOverflows, e = .aborted m) ∨
    ∃ m ∈ amountOverflows, e = illegalState m

/-- Code that no check stops. -/
abbrev OnlyOverflows {α : Type} (x : ContractResult α) : Prop := AllErrors IsArithmeticOverflow x

section Kinds

@[simp] theorem isArithmeticOverflow_illegalState {m : String} :
    IsArithmeticOverflow (illegalState m) ↔ m ∈ amountOverflows := by
  simp [IsArithmeticOverflow, IsOverflow, illegalState]

@[simp] theorem isArithmeticOverflow_overflow {m : String} :
    IsArithmeticOverflow (.overflow m) ↔ m ∈ notionalOverflows := by
  simp [IsArithmeticOverflow, IsOverflow, illegalState]

@[simp] theorem isArithmeticOverflow_aborted {m : String} :
    IsArithmeticOverflow (.aborted m) ↔ m ∈ abortedOverflows := by
  simp [IsArithmeticOverflow, IsOverflow, illegalState]

@[simp] theorem isArithmeticOverflow_fromRatio {e : CheckedFromRatioError} :
    IsArithmeticOverflow (.checkedFromRatioError e) ↔ e = .overflow := by
  simp [IsArithmeticOverflow, IsOverflow, illegalState]

/-- A refusal is not an overflow. -/
@[simp] theorem not_isArithmeticOverflow_illegalArgument {m : String} :
    ¬ IsArithmeticOverflow (illegalArgument m) := by
  simp [IsArithmeticOverflow, IsOverflow, illegalState, illegalArgument]

end Kinds

/-! ## Arithmetic -/

section Arithmetic

variable (a b : Decimal256) (n d : Nat)

@[simp] theorem onlyOverflows_checkedAdd : OnlyOverflows (a.checkedAdd b) :=
  (isOverflow_checkedAdd a b).mono fun _ => Or.inl

@[simp] theorem onlyOverflows_checkedMul : OnlyOverflows (a.checkedMul b) :=
  (isOverflow_checkedMul a b).mono fun _ => Or.inl

@[simp] theorem onlyOverflows_addOrAbort : OnlyOverflows (a.addOrAbort b) := by
  simp [addOrAbort, abortedOverflows]

variable {b d}

theorem onlyOverflows_checkedDiv (hb : b.atomics ≠ 0) : OnlyOverflows (a.checkedDiv b) := by
  simp [checkedDiv, checkedFromRatio, hb]

theorem onlyOverflows_fromRatio (hd : d ≠ 0) : OnlyOverflows (fromRatio n d) := by
  simp [fromRatio, hd, abortedOverflows]

@[simp] theorem onlyOverflows_fromRatio_one : OnlyOverflows (fromRatio n 1) :=
  onlyOverflows_fromRatio n Nat.one_ne_zero

end Arithmetic

/-! ## Rates and conversions -/

section Rates

variable (r : ReserveStateV1) (amount : Uint128) (index : Decimal256)

@[simp] theorem onlyOverflows_totalLiquidity : OnlyOverflows r.totalLiquidity := by
  simp [ReserveStateV1.totalLiquidity]

@[simp] theorem onlyOverflows_totalBorrow : OnlyOverflows r.totalBorrow := by
  simp [ReserveStateV1.totalBorrow]

@[simp] theorem onlyOverflows_utilization : OnlyOverflows r.utilization := by
  simp only [ReserveStateV1.utilization, allErrors_bind, allErrors_ite, allErrors_pure,
    onlyOverflows_totalLiquidity, onlyOverflows_totalBorrow, implies_true, true_and]
  intro liquidity _ hliquidity borrow _
  apply onlyOverflows_checkedDiv
  intro hzero
  exact hliquidity (isZero_iff.mpr hzero)

/-- The rates of valid parameters are reported, unless they do not fit. -/
theorem onlyOverflows_attachRates {p : RateParamsV1} (hp : p.Valid) (res : Response) :
    OnlyOverflows (res.attachRates r p) := by
  simp only [Response.attachRates, allErrors_bind, allErrors_pure, onlyOverflows_utilization,
    implies_true, and_true, true_and]
  intro u _
  refine ⟨(isOverflow_borrowerRate hp u).mono fun _ => Or.inl, fun br hbr => ?_⟩
  have hmin : p.minRate ≤ br := by
    rw [le_def, borrowerRate_eq hp hbr]
    exact RateParamsV1.minRate_le_curve hp _
  exact (isOverflow_lenderRate hp hmin).mono fun _ => Or.inl

@[simp] theorem onlyOverflows_scaledToUnderlyingBorrow :
    OnlyOverflows (scaledToUnderlyingBorrow amount index) := by
  simp [scaledToUnderlyingBorrow, scaledToUnderlying, amountOverflows]

@[simp] theorem onlyOverflows_scaledToUnderlyingBorrowCeil :
    OnlyOverflows (scaledToUnderlyingBorrowCeil amount index) := by
  simp [scaledToUnderlyingBorrowCeil, amountOverflows]

variable {index}

theorem onlyOverflows_underlyingToScaledBorrow (hindex : index.atomics ≠ 0) :
    OnlyOverflows (underlyingToScaledBorrow amount index) := by
  have hzero : index.isZero = false := by simpa [isZero] using hindex
  simp [underlyingToScaledBorrow, underlyingToScaled, hzero, onlyOverflows_checkedDiv _ hindex,
    amountOverflows]

end Rates

/-! ## Prices -/

section Prices

variable {price : AssetPriceResponseV1} {prices : PriceMap} {q : LiquidationPrices}

/-- The notional of an amount, at a price that is not zero. -/
theorem onlyOverflows_valueUsd (h : price.isZeroPrice = false) (amount : Uint128) :
    OnlyOverflows (price.valueUsd amount) := by
  have hdisplay : price.valuationInputs.1.isZero = false := h
  simp [AssetPriceResponseV1.valueUsd, uint256, hdisplay, notionalOverflows]

/-- The haircutted value skips the holdings without a price. -/
@[simp] theorem onlyOverflows_collateralValue (c : Amounts) (sup : List CollateralAssetV1) :
    OnlyOverflows (calculateTotalCollateralValueUsd c prices sup) := by
  refine AllErrors.foldlM (fun total entry => ?_) _ _
  unfold addCollateralValue
  split
  · exact allErrors_pure
  · rename_i price _
    by_cases hzero : price.isZeroPrice = true
    · simp [hzero]
    · have hprice : price.isZeroPrice = false := by simpa using hzero
      simp [hprice, onlyOverflows_valueUsd]

end Prices

end DemocratizedPrime
