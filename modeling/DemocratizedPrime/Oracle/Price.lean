import DemocratizedPrime.CosmWasm.Decimal
import Mathlib.Algebra.Order.Floor.Semiring
import Mathlib.Data.Nat.ModEq

/-!
# Oracle prices

`AssetPriceResponseV1` of the shared library: a display price in USD, the number
of decimals of the asset, and the second at which the quote expires.

`valueUsd` is the notional of an amount, `display · amount / 10 ^ precision`.  It
truncates once.  `valueAtomics` is that truncated number without the overflow
checks, and `valueUsd_ok` says that a successful `valueUsd` returns it.

`amountFromUsdHaircutted` goes the other way: it inverts the truncated notional
followed by the truncated haircut.  `amountFromUsdHaircutted_sufficient` is the
half of the inversion that a quote needs.
-/

namespace DemocratizedPrime

open Result

/-- The oracle's answer for one asset. -/
structure AssetPriceResponseV1 where
  priceUsd : Decimal256
  displayPriceUsd : Decimal256
  precision : Nat
  asOfEpochSecond : Nat
  expirationEpochSeconds : Nat
deriving DecidableEq, Repr

/-- An intermediate `Uint256`, or `error` when it does not fit. -/
def uint256 (n : Nat) (error : ContractError) : ContractResult Nat :=
  if n < 2 ^ 256 then .ok n else .error error

theorem uint256_eq_ok {n m : Nat} {e : ContractError} :
    uint256 n e = .ok m ↔ n < 2 ^ 256 ∧ m = n := by
  unfold uint256
  split <;> simp_all [eq_comm]

/-- `ceil(numerator / denominator)`; callers pass a non-zero denominator. -/
def ceilDiv (numerator denominator : Nat) : ContractResult Nat :=
  if denominator = 0 then .error (.overflow "division by zero")
  else if numerator % denominator = 0 then .ok (numerator / denominator)
  else uint256 (numerator / denominator + 1) .amountNotRepresentable

/-- The rounded quotient times the divisor covers the dividend. -/
theorem le_mul_of_ceilDiv {numerator denominator q : Nat}
    (h : ceilDiv numerator denominator = .ok q) : numerator ≤ q * denominator := by
  unfold ceilDiv at h
  rw [ite_error_eq_ok] at h
  obtain ⟨hpos, h⟩ := h
  split at h
  · rename_i hexact
    cases h
    exact Nat.le_of_eq (Nat.div_mul_cancel (Nat.dvd_of_mod_eq_zero hexact)).symm
  · obtain ⟨-, hq⟩ := uint256_eq_ok.mp h
    have hlt := Nat.lt_div_mul_add (a := numerator) (Nat.pos_of_ne_zero hpos)
    rw [hq, Nat.succ_mul]
    omega

namespace AssetPriceResponseV1

/-- The display price and the precision of the notional.  A payload without
these two fields falls back to the scaled price. -/
def valuationInputs (p : AssetPriceResponseV1) : Decimal256 × Nat :=
  if p.displayPriceUsd.isZero && p.precision == 0 then (p.priceUsd, 0)
  else (p.displayPriceUsd, p.precision)

/-- Whether a valuation with this price would be zero. -/
def isZeroPrice (p : AssetPriceResponseV1) : Bool := p.valuationInputs.1.isZero

/-- USD notional of `amount` base units. -/
def valueUsd (p : AssetPriceResponseV1) (amount : Uint128) : ContractResult Decimal256 :=
  let display := p.valuationInputs.1
  let precision := p.valuationInputs.2
  if amount.val = 0 then .ok Decimal256.zero
  else do
    ensure (display.isZero = false) (illegalArgument "Asset price is zero")
    let numerator ← uint256 (display.atomics * amount.val) (.overflow "USD notional overflow")
    ensure (18 + precision < 2 ^ 32) (.overflow "Price precision overflow")
    let denominator ← uint256 (10 ^ (18 + precision)) (.overflow "Price precision overflow")
    okOr (Decimal256.ofAtomics? (numerator * decimalFractional / denominator))
      (.overflow "USD notional overflow")

/-- The least amount whose haircutted notional is at least `value` USD. -/
def amountFromUsdHaircutted (p : AssetPriceResponseV1) (value haircut : Decimal256) :
    ContractResult Uint128 :=
  if value.isZero then .ok 0
  else do
    ensure (haircut.isZero = false) (illegalArgument "Haircut is zero")
    let display := p.valuationInputs.1
    let precision := p.valuationInputs.2
    ensure (display.isZero = false) (illegalArgument "Asset price is zero")
    let scale ← uint256 (10 ^ precision) (.overflow "Price precision overflow")
    let scaled ← uint256 (value.atomics * decimalFractional) (.overflow "amount from USD overflow")
    let t ← ceilDiv scaled haircut.atomics
    let scaledT ← uint256 (t * scale) (.overflow "amount from USD overflow")
    let amount ← ceilDiv scaledT display.atomics
    okOr (Uint.ofNat? 128 amount) .amountNotRepresentable

/-- A quote is stale from the second of its expiration on. -/
def isStale (p : AssetPriceResponseV1) (time : Timestamp) : Bool :=
  decide (p.expirationEpochSeconds ≤ time.seconds)

/-- The second from which the price is stale. -/
def expiredAt (p : AssetPriceResponseV1) : Nat := p.expirationEpochSeconds

/-! ## The notional without its overflow checks -/

/-- The truncated notional of `amount` base units, in atomics of a USD. -/
def valueAtomics (p : AssetPriceResponseV1) (amount : Nat) : Nat :=
  p.valuationInputs.1.atomics * amount / 10 ^ p.valuationInputs.2

@[simp] theorem valueAtomics_zero (p : AssetPriceResponseV1) : p.valueAtomics 0 = 0 := by
  simp [valueAtomics]

theorem valueUsd_ok {p : AssetPriceResponseV1} {amount : Uint128} {v : Decimal256}
    (h : p.valueUsd amount = .ok v) : v.atomics = p.valueAtomics amount.val := by
  unfold valueUsd at h
  split at h
  · rename_i hz
    cases h
    simp [hz]
  · simp only [bind_eq_ok, ensure_eq_ok, exists_const, uint256_eq_ok, okOr_eq_ok,
      Decimal256.ofAtomics?_eq_some] at h
    obtain ⟨-, num, ⟨-, rfl⟩, -, den, ⟨-, rfl⟩, hv⟩ := h
    rw [hv, valueAtomics, Nat.pow_add, Nat.mul_comm (10 ^ 18)]
    exact Nat.mul_div_mul_right _ _ (by norm_num)

/-- An amount from a quote is worth at least the value, after both truncations. -/
theorem amountFromUsdHaircutted_sufficient {p : AssetPriceResponseV1} {value haircut : Decimal256}
    {amount : Uint128} (h : p.amountFromUsdHaircutted value haircut = .ok amount) :
    value.atomics ≤ p.valueAtomics amount.val * haircut.atomics / decimalFractional := by
  unfold amountFromUsdHaircutted at h
  split at h
  · rename_i hzero
    rw [Decimal256.isZero_iff.mp hzero]
    exact Nat.zero_le _
  · simp only [bind_eq_ok, ensure_eq_ok, exists_const, uint256_eq_ok, okOr_eq_ok,
      Uint.ofNat?_eq_some] at h
    obtain ⟨-, -, scale, ⟨-, rfl⟩, scaled, ⟨-, rfl⟩, t, ht, scaledT, ⟨-, rfl⟩, n, hn, hamount⟩ := h
    have hhaircut : value.atomics * decimalFractional ≤ t * haircut.atomics := le_mul_of_ceilDiv ht
    have hdisplay : t * 10 ^ p.valuationInputs.2 ≤ n * p.valuationInputs.1.atomics :=
      le_mul_of_ceilDiv hn
    have hnotional : t ≤ p.valueAtomics amount.val := by
      rw [valueAtomics, Nat.le_div_iff_mul_le (by positivity), hamount, Nat.mul_comm _ n]
      exact hdisplay
    rw [Nat.le_div_iff_mul_le (by decide)]
    calc value.atomics * decimalFractional ≤ t * haircut.atomics := hhaircut
      _ ≤ p.valueAtomics amount.val * haircut.atomics := Nat.mul_le_mul_right _ hnotional

/-- Two parts of a holding are worth at most the whole. -/
theorem valueAtomics_add_le (p : AssetPriceResponseV1) (a b : Nat) :
    p.valueAtomics a + p.valueAtomics b ≤ p.valueAtomics (a + b) := by
  unfold valueAtomics
  rw [Nat.mul_add]
  exact Nat.div_add_div_le_add_div

/-- Splitting a holding loses at most one atomic of its notional. -/
theorem valueAtomics_add_lt (p : AssetPriceResponseV1) (a b : Nat) :
    p.valueAtomics (a + b) ≤ p.valueAtomics a + p.valueAtomics b + 1 := by
  unfold valueAtomics
  have hpos : 0 < 10 ^ p.valuationInputs.2 := Nat.pos_of_ne_zero (by positivity)
  rw [Nat.mul_add]
  exact Nat.add_div_le_div_add_div_add_one _ _ _

end AssetPriceResponseV1

end DemocratizedPrime
