import DemocratizedPrime.Common.Error
import DemocratizedPrime.Lib.Rounding
import Mathlib.Algebra.Order.Field.Rat
import Mathlib.Tactic.Linarith
import Mathlib.Tactic.LinearCombination
import Mathlib.Tactic.Positivity
import Mathlib.Tactic.Ring

/-!
# `Decimal256`

The 18-decimal fixed-point numbers of `cosmwasm_std`: a value is a 256-bit
number of atomics, `10 ^ 18` of them to the unit.  Products and quotients are
truncated.  Their intermediate value is 512 bits wide, so the only overflow is a
result that does not fit.

Each checked operation has one equation, `…_eq_ok`: it succeeds with `c` if and
only if the atomics of `c` are the truncated result.  The bound on the atomics
is a field of the type, so the equation also says when the operation overflows.

`toRat` is the exact value, for statements that speak of exact amounts.
-/

namespace DemocratizedPrime

/-- The number of atomics in one unit, `Decimal256::DECIMAL_FRACTIONAL`. -/
abbrev decimalFractional : Nat := 1000000000000000000

/-- A decimal with 18 places: a 256-bit count of `10 ^ -18`, its atomics. -/
@[ext] structure Decimal256 where
  atomics : Nat
  isLt : atomics < 2 ^ 256
deriving DecidableEq, Repr

namespace Decimal256

open Result

/-- The decimal with the given atomics, when they fit. -/
def ofAtomics? (n : Nat) : Option Decimal256 :=
  if h : n < 2 ^ 256 then some ⟨n, h⟩ else none

/-- `Decimal256::zero`. -/
def zero : Decimal256 := ⟨0, by decide⟩

/-- `Decimal256::one`. -/
def one : Decimal256 := ⟨decimalFractional, by decide⟩

instance : LE Decimal256 := ⟨fun a b => a.atomics ≤ b.atomics⟩
instance : LT Decimal256 := ⟨fun a b => a.atomics < b.atomics⟩
instance (a b : Decimal256) : Decidable (a ≤ b) :=
  inferInstanceAs (Decidable (a.atomics ≤ b.atomics))
instance (a b : Decimal256) : Decidable (a < b) :=
  inferInstanceAs (Decidable (a.atomics < b.atomics))

theorem le_def {a b : Decimal256} : a ≤ b ↔ a.atomics ≤ b.atomics := Iff.rfl
theorem lt_def {a b : Decimal256} : a < b ↔ a.atomics < b.atomics := Iff.rfl

/-- `Decimal256::is_zero`. -/
def isZero (a : Decimal256) : Bool := a.atomics == 0

/-- The smaller of two decimals. -/
def min (a b : Decimal256) : Decimal256 := if a ≤ b then a else b

/-- The sum, which is exact, if it fits. -/
def checkedAdd (a b : Decimal256) : ContractResult Decimal256 :=
  okOr (ofAtomics? (a.atomics + b.atomics)) (.overflowError .add)

/-- The difference, if it is not negative. -/
def checkedSub (a b : Decimal256) : ContractResult Decimal256 :=
  if b.atomics ≤ a.atomics then okOr (ofAtomics? (a.atomics - b.atomics)) (.overflowError .sub)
  else .error (.overflowError .sub)

/-- The difference, and zero when it would be negative. -/
def saturatingSub (a b : Decimal256) : Decimal256 :=
  ⟨a.atomics - b.atomics, Nat.lt_of_le_of_lt (Nat.sub_le _ _) a.isLt⟩

/-- The product, truncated to 18 places, if it fits. -/
def checkedMul (a b : Decimal256) : ContractResult Decimal256 :=
  okOr (ofAtomics? (a.atomics * b.atomics / decimalFractional)) (.overflowError .mul)

/-- `Decimal256::checked_from_ratio`. -/
def checkedFromRatio (numerator denominator : Nat) : ContractResult Decimal256 :=
  if denominator = 0 then .error (.checkedFromRatioError .divideByZero)
  else okOr (ofAtomics? (numerator * decimalFractional / denominator))
    (.checkedFromRatioError .overflow)

/-- The quotient, truncated to 18 places, if it fits. -/
def checkedDiv (a b : Decimal256) : ContractResult Decimal256 :=
  checkedFromRatio a.atomics b.atomics

/-- `Decimal256::from_ratio`, which panics where the checked form errors. -/
def fromRatio (numerator denominator : Nat) : ContractResult Decimal256 :=
  if denominator = 0 then .error (.aborted "Denominator must not be zero")
  else okOr (ofAtomics? (numerator * decimalFractional / denominator))
    (.aborted "Multiplication overflow")

/-- The operator `+`, which panics on overflow. -/
def addOrAbort (a b : Decimal256) : ContractResult Decimal256 :=
  okOr (ofAtomics? (a.atomics + b.atomics)) (.aborted "attempt to add with overflow")

/-- The loop of `checked_pow`, exponentiation by squaring.  A round halves the exponent, which
is a `u32`, so it takes fewer than 32 rounds. -/
def powLoop : (rounds : Nat) → (x y : Decimal256) → (n : Nat) → ContractResult Decimal256
  | 0, x, y, _ => x.checkedMul y
  | rounds + 1, x, y, n =>
    if n ≤ 1 then x.checkedMul y
    else if n % 2 = 0 then do
      let square ← x.checkedMul x
      powLoop rounds square y (n / 2)
    else do
      let product ← x.checkedMul y
      let square ← x.checkedMul x
      powLoop rounds square product ((n - 1) / 2)

/-- A power, by squaring, with one error for whatever product does not fit. -/
def checkedPow (a : Decimal256) (exp : Nat) : ContractResult Decimal256 :=
  if exp = 0 then return one
  else (powLoop 32 a one exp).mapError fun _ => .overflowError .pow

/-- `Display`: the whole part, and the fraction without trailing zeros. -/
def toText (a : Decimal256) : String :=
  let whole := toString (a.atomics / decimalFractional)
  let fractional := a.atomics % decimalFractional
  if fractional = 0 then whole
  else
    let digits := (toString fractional).toList
    let padded := List.replicate (18 - digits.length) '0' ++ digits
    whole ++ "." ++ String.ofList (padded.reverse.dropWhile (· == '0')).reverse

instance : ToString Decimal256 := ⟨toText⟩

/-! ## The equations of the operations -/

theorem ofAtomics?_eq_some {n : Nat} {c : Decimal256} :
    ofAtomics? n = some c ↔ c.atomics = n := by
  unfold ofAtomics?
  constructor
  · intro h
    split at h
    · rw [← Option.some.inj h]
    · cases h
  · intro h
    have hlt : n < 2 ^ 256 := h ▸ c.isLt
    rw [dif_pos hlt]
    exact congrArg some (Decimal256.ext h.symm)

/-- A whole number of base units fits, so converting one never fails. -/
theorem units_lt (n : Uint128) : n.val * decimalFractional < 2 ^ 256 := by
  have hn := n.isLt
  unfold decimalFractional
  omega

@[simp] theorem atomics_zero : zero.atomics = 0 := rfl
@[simp] theorem atomics_one : one.atomics = decimalFractional := rfl

@[simp] theorem isZero_iff {a : Decimal256} : a.isZero = true ↔ a.atomics = 0 := by
  simp [isZero]

theorem min_atomics (a b : Decimal256) :
    (a.min b).atomics = Min.min a.atomics b.atomics := by
  unfold min
  split
  · rename_i h
    exact (Nat.min_eq_left h).symm
  · rename_i h
    exact (Nat.min_eq_right (Nat.le_of_not_le h)).symm

theorem checkedAdd_eq_ok {a b c : Decimal256} :
    a.checkedAdd b = .ok c ↔ c.atomics = a.atomics + b.atomics := by
  rw [checkedAdd, okOr_eq_ok, ofAtomics?_eq_some]

theorem checkedSub_eq_ok {a b c : Decimal256} :
    a.checkedSub b = .ok c ↔ c.atomics + b.atomics = a.atomics := by
  unfold checkedSub
  split
  · rw [okOr_eq_ok, ofAtomics?_eq_some]
    omega
  · constructor
    · intro h
      cases h
    · omega

theorem checkedMul_eq_ok {a b c : Decimal256} :
    a.checkedMul b = .ok c ↔ c.atomics = a.atomics * b.atomics / decimalFractional := by
  rw [checkedMul, okOr_eq_ok, ofAtomics?_eq_some]

theorem checkedFromRatio_eq_ok {n d : Nat} {c : Decimal256} :
    checkedFromRatio n d = .ok c ↔ d ≠ 0 ∧ c.atomics = n * decimalFractional / d := by
  rw [checkedFromRatio, ite_error_eq_ok, okOr_eq_ok, ofAtomics?_eq_some]

theorem checkedDiv_eq_ok {a b c : Decimal256} :
    a.checkedDiv b = .ok c ↔
      b.atomics ≠ 0 ∧ c.atomics = a.atomics * decimalFractional / b.atomics :=
  checkedFromRatio_eq_ok

theorem fromRatio_eq_ok {n d : Nat} {c : Decimal256} :
    fromRatio n d = .ok c ↔ d ≠ 0 ∧ c.atomics = n * decimalFractional / d := by
  rw [fromRatio, ite_error_eq_ok, okOr_eq_ok, ofAtomics?_eq_some]

/-- A whole number is a decimal without a fraction. -/
theorem fromRatio_one_eq_ok {n : Nat} {c : Decimal256} :
    fromRatio n 1 = .ok c ↔ c.atomics = n * decimalFractional := by
  rw [fromRatio_eq_ok, Nat.div_one]
  simp

theorem addOrAbort_eq_ok {a b c : Decimal256} :
    a.addOrAbort b = .ok c ↔ c.atomics = a.atomics + b.atomics := by
  rw [addOrAbort, okOr_eq_ok, ofAtomics?_eq_some]

/-! ## When the operations succeed -/

theorem exists_atomics_eq {n : Nat} : (∃ c : Decimal256, c.atomics = n) ↔ n < 2 ^ 256 := by
  constructor
  · rintro ⟨c, rfl⟩
    exact c.isLt
  · intro h
    exact ⟨⟨n, h⟩, rfl⟩

theorem isOk_checkedAdd_iff {a b : Decimal256} :
    IsOk (a.checkedAdd b) ↔ a.atomics + b.atomics < 2 ^ 256 := by
  simp only [IsOk, checkedAdd_eq_ok, exists_atomics_eq]

theorem isOk_checkedMul_iff {a b : Decimal256} :
    IsOk (a.checkedMul b) ↔ a.atomics * b.atomics / decimalFractional < 2 ^ 256 := by
  simp only [IsOk, checkedMul_eq_ok, exists_atomics_eq]

theorem isOk_checkedDiv_iff {a b : Decimal256} :
    IsOk (a.checkedDiv b) ↔
      b.atomics ≠ 0 ∧ a.atomics * decimalFractional / b.atomics < 2 ^ 256 := by
  simp only [IsOk, checkedDiv_eq_ok, exists_and_left, exists_atomics_eq]

theorem isOk_checkedSub_iff {a b : Decimal256} : IsOk (a.checkedSub b) ↔ b ≤ a := by
  have hlt := a.isLt
  simp only [IsOk, checkedSub_eq_ok, le_def]
  constructor
  · rintro ⟨c, hc⟩
    omega
  · intro hle
    exact ⟨⟨a.atomics - b.atomics, by omega⟩, Nat.sub_add_cancel hle⟩

/-- A product of smaller factors fits. -/
theorem isOk_checkedMul_mono {a b a' b' : Decimal256} (ha : a ≤ a') (hb : b ≤ b')
    (h : IsOk (a'.checkedMul b')) : IsOk (a.checkedMul b) := by
  rw [isOk_checkedMul_iff] at h ⊢
  have hle : a.atomics * b.atomics ≤ a'.atomics * b'.atomics := Nat.mul_le_mul ha hb
  exact Nat.lt_of_le_of_lt (Nat.div_le_div_right hle) h

/-! ## Powers of whole numbers -/

/-- A product of whole numbers is not truncated. -/
theorem checkedMul_whole {a b : Decimal256} {m n : Nat} (ha : a.atomics = m * decimalFractional)
    (hb : b.atomics = n * decimalFractional) (hfits : m * n * decimalFractional < 2 ^ 256) :
    ∃ c, a.checkedMul b = .ok c ∧ c.atomics = m * n * decimalFractional := by
  refine ⟨⟨_, hfits⟩, checkedMul_eq_ok.mpr ?_, rfl⟩
  have hproduct : a.atomics * b.atomics = m * n * decimalFractional * decimalFractional := by
    rw [ha, hb]
    ring
  rw [hproduct, Nat.mul_div_cancel _ (by decide)]

/-- The loop multiplies `y` by `x ^ n`.  No intermediate product exceeds the result, since
the base is at least one. -/
theorem powLoop_whole {rounds n m k : Nat} {x y : Decimal256} (hn : 0 < n)
    (hrounds : n < 2 ^ (rounds + 1)) (hm : 0 < m) (hk : 0 < k)
    (hx : x.atomics = m * decimalFractional) (hy : y.atomics = k * decimalFractional)
    (hfits : m ^ n * k * decimalFractional < 2 ^ 256) :
    ∃ c, powLoop rounds x y n = .ok c ∧ c.atomics = m ^ n * k * decimalFractional := by
  induction rounds generalizing n m k x y with
  | zero =>
    obtain rfl : n = 1 := by omega
    rw [pow_one] at hfits ⊢
    exact checkedMul_whole hx hy hfits
  | succ rounds ih =>
    unfold powLoop
    by_cases hone : n ≤ 1
    · obtain rfl : n = 1 := by omega
      rw [if_pos hone]
      rw [pow_one] at hfits ⊢
      exact checkedMul_whole hx hy hfits
    · rw [if_neg hone]
      have hsquare_le : m * m ≤ m ^ n := by
        rw [← pow_two]
        exact Nat.pow_le_pow_right hm (by omega)
      have hsquare_fits : m * m * decimalFractional < 2 ^ 256 := by
        refine Nat.lt_of_le_of_lt (Nat.mul_le_mul_right _ ?_) hfits
        exact Nat.le_trans hsquare_le (Nat.le_mul_of_pos_right _ hk)
      obtain ⟨square, hsquare, hsquare_eq⟩ := checkedMul_whole hx hx hsquare_fits
      by_cases heven : n % 2 = 0
      · have hpow : m ^ n = (m * m) ^ (n / 2) := by
          rw [← pow_two, ← pow_mul]
          congr 1
          omega
        rw [if_pos heven, hsquare, ok_bind, hpow]
        rw [hpow] at hfits
        exact ih (by omega) (by omega) (Nat.mul_pos hm hm) hk hsquare_eq hy hfits
      · have hpow : m ^ n * k = (m * m) ^ ((n - 1) / 2) * (m * k) := by
          have hsplit : n = 2 * ((n - 1) / 2) + 1 := by omega
          rw [hsplit, pow_succ, pow_mul, pow_two, ← hsplit]
          ring
        have hproduct_fits : m * k * decimalFractional < 2 ^ 256 := by
          refine Nat.lt_of_le_of_lt (Nat.mul_le_mul_right _ (Nat.mul_le_mul_right _ ?_)) hfits
          exact Nat.le_trans (Nat.le_mul_of_pos_right _ hm) hsquare_le
        obtain ⟨product, hproduct, hproduct_eq⟩ := checkedMul_whole hx hy hproduct_fits
        rw [if_neg heven, hproduct, ok_bind, hsquare, ok_bind, hpow]
        rw [hpow] at hfits
        exact ih (by omega) (by omega) (Nat.mul_pos hm hm) (Nat.mul_pos hm hk) hsquare_eq
          hproduct_eq hfits

/-- A power of a whole number that fits is exact. -/
theorem checkedPow_whole {a : Decimal256} {m exp : Nat} (hm : 0 < m)
    (ha : a.atomics = m * decimalFractional) (hexp : exp < 2 ^ 32)
    (hfits : m ^ exp * decimalFractional < 2 ^ 256) :
    ∃ c, a.checkedPow exp = .ok c ∧ c.atomics = m ^ exp * decimalFractional := by
  unfold checkedPow
  by_cases hzero : exp = 0
  · rw [if_pos hzero, hzero, pow_zero, Nat.one_mul]
    exact ⟨one, rfl, rfl⟩
  · rw [if_neg hzero]
    have hfits' : m ^ exp * 1 * decimalFractional < 2 ^ 256 := by rwa [Nat.mul_one]
    have hone : one.atomics = 1 * decimalFractional := rfl
    have hrounds : exp < 2 ^ (32 + 1) := by omega
    obtain ⟨c, hloop, hc⟩ :=
      powLoop_whole (Nat.pos_of_ne_zero hzero) hrounds hm Nat.one_pos ha hone hfits'
    rw [Nat.mul_one] at hc
    exact ⟨c, by rw [hloop]; rfl, hc⟩

/-! ## The exact value -/

/-- The exact value of a decimal. -/
def toRat (a : Decimal256) : ℚ := a.atomics / decimalFractional

/-- The distance between neighbouring decimals, `10 ^ -18`. -/
def ulp : ℚ := 1 / decimalFractional

theorem toRat_eq (a : Decimal256) : a.toRat = a.atomics * ulp := by
  rw [toRat, ulp, mul_one_div]

theorem ulp_pos : 0 < ulp := by
  unfold ulp
  positivity

theorem ulp_mul_decimalFractional : ulp * decimalFractional = 1 := by
  rw [ulp, one_div_mul_cancel (by positivity)]

theorem toRat_nonneg (a : Decimal256) : 0 ≤ a.toRat := by
  unfold toRat
  positivity

theorem toRat_le {a b : Decimal256} : a.toRat ≤ b.toRat ↔ a ≤ b := by
  rw [toRat_eq, toRat_eq, mul_le_mul_iff_left₀ ulp_pos, Nat.cast_le, le_def]

theorem toRat_lt {a b : Decimal256} : a.toRat < b.toRat ↔ a < b := by
  rw [toRat_eq, toRat_eq, mul_lt_mul_iff_left₀ ulp_pos, Nat.cast_lt, lt_def]

@[simp] theorem toRat_one : one.toRat = 1 := by
  rw [toRat_eq, atomics_one, mul_comm]
  exact ulp_mul_decimalFractional

theorem toRat_checkedAdd {a b c : Decimal256} (h : a.checkedAdd b = .ok c) :
    c.toRat = a.toRat + b.toRat := by
  rw [toRat_eq, toRat_eq, toRat_eq, checkedAdd_eq_ok.mp h]
  push_cast
  ring

theorem toRat_checkedSub {a b c : Decimal256} (h : a.checkedSub b = .ok c) :
    c.toRat = a.toRat - b.toRat := by
  have hsum : (a.atomics : ℚ) = c.atomics + b.atomics := by
    exact_mod_cast (checkedSub_eq_ok.mp h).symm
  rw [toRat_eq, toRat_eq, toRat_eq, hsum]
  ring

/-- What a product loses when it is truncated. -/
def dropped (a b : Decimal256) : ℚ :=
  (a.atomics * b.atomics % decimalFractional : Nat) * (ulp * ulp)

theorem dropped_nonneg (a b : Decimal256) : 0 ≤ dropped a b :=
  mul_nonneg (Nat.cast_nonneg _) (mul_nonneg ulp_pos.le ulp_pos.le)

theorem dropped_lt (a b : Decimal256) : dropped a b < ulp := by
  have hmod : a.atomics * b.atomics % decimalFractional < decimalFractional :=
    Nat.mod_lt _ (by decide)
  have hcast : ((a.atomics * b.atomics % decimalFractional : Nat) : ℚ) < decimalFractional := by
    exact_mod_cast hmod
  calc dropped a b < decimalFractional * (ulp * ulp) :=
        mul_lt_mul_of_pos_right hcast (mul_pos ulp_pos ulp_pos)
    _ = ulp := by linear_combination ulp * ulp_mul_decimalFractional

theorem toRat_checkedMul {a b c : Decimal256} (h : a.checkedMul b = .ok c) :
    c.toRat = a.toRat * b.toRat - dropped a b := by
  have hsplit := Nat.div_add_mod (a.atomics * b.atomics) decimalFractional
  rw [← checkedMul_eq_ok.mp h] at hsplit
  have hcast : (decimalFractional : ℚ) * c.atomics +
      (a.atomics * b.atomics % decimalFractional : Nat) = a.atomics * b.atomics := by
    exact_mod_cast hsplit
  rw [toRat_eq, toRat_eq, toRat_eq, dropped]
  linear_combination ulp * ulp * hcast - c.atomics * ulp * ulp_mul_decimalFractional

/-- A product is rounded down, -/
theorem toRat_checkedMul_le {a b c : Decimal256} (h : a.checkedMul b = .ok c) :
    c.toRat ≤ a.toRat * b.toRat := by
  rw [toRat_checkedMul h]
  exact sub_le_self _ (dropped_nonneg a b)

/-- by less than one `ulp`. -/
theorem lt_toRat_checkedMul {a b c : Decimal256} (h : a.checkedMul b = .ok c) :
    a.toRat * b.toRat < c.toRat + ulp := by
  rw [toRat_checkedMul h]
  have hlt := dropped_lt a b
  linarith

/-- A quotient is rounded down, -/
theorem toRat_checkedDiv_mul_le {a b c : Decimal256} (h : a.checkedDiv b = .ok c) :
    c.toRat * b.toRat ≤ a.toRat := by
  have hle := Rounding.floorDiv_mul_le (K := ℚ) (a.atomics * decimalFractional) b.atomics
  rw [← (checkedDiv_eq_ok.mp h).2] at hle
  unfold toRat
  rw [div_mul_div_comm, div_le_div_iff₀ (by positivity) (by positivity), ← mul_assoc]
  refine mul_le_mul_of_nonneg_right ?_ (by positivity)
  exact_mod_cast hle

/-- by less than one `ulp` of the divisor. -/
theorem lt_toRat_checkedDiv_mul {a b c : Decimal256} (h : a.checkedDiv b = .ok c) :
    a.toRat < (c.toRat + ulp) * b.toRat := by
  obtain ⟨hb, hc⟩ := checkedDiv_eq_ok.mp h
  have hlt := Rounding.lt_floorDiv_add_one_mul (K := ℚ) (a.atomics * decimalFractional)
    (Nat.pos_of_ne_zero hb)
  rw [← hc] at hlt
  unfold toRat ulp
  rw [← add_div, div_mul_div_comm, div_lt_div_iff₀ (by positivity) (by positivity), ← mul_assoc]
  refine mul_lt_mul_of_pos_right ?_ (by positivity)
  exact_mod_cast hlt

/-- A ratio of whole numbers is rounded down, -/
theorem toRat_fromRatio_le {n d : Nat} {c : Decimal256} (h : fromRatio n d = .ok c) :
    c.toRat ≤ n / d := by
  obtain ⟨hd, hc⟩ := fromRatio_eq_ok.mp h
  have hle := Rounding.floorDiv_mul_le (K := ℚ) (n * decimalFractional) d
  have hpos : (0 : ℚ) < d := by exact_mod_cast Nat.pos_of_ne_zero hd
  rw [← hc] at hle
  rw [toRat, div_le_div_iff₀ (by positivity) hpos]
  exact_mod_cast hle

/-- by less than one `ulp`. -/
theorem lt_toRat_fromRatio {n d : Nat} {c : Decimal256} (h : fromRatio n d = .ok c) :
    (n / d : ℚ) < c.toRat + ulp := by
  obtain ⟨hd, hc⟩ := fromRatio_eq_ok.mp h
  have hlt := Rounding.lt_floorDiv_add_one_mul (K := ℚ) (n * decimalFractional)
    (Nat.pos_of_ne_zero hd)
  have hpos : (0 : ℚ) < d := by exact_mod_cast Nat.pos_of_ne_zero hd
  rw [← hc] at hlt
  rw [toRat, ulp, ← add_div, div_lt_div_iff₀ hpos (by positivity)]
  exact_mod_cast hlt

end Decimal256

end DemocratizedPrime
