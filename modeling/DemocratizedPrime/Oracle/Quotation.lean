import DemocratizedPrime.Oracle.Price
import Mathlib.Algebra.Order.Floor.Div
import Mathlib.Order.Bounds.Basic

/-!
# Quotes invert the haircutted valuation

A consumer truncates twice: once for the notional of an amount, and once for its
haircut.  `amountNeeded` undoes the two truncations by rounded-up quotients, the
outer one first, and `amountNeeded_le_iff` says that it is the exact inverse.

* `amountFromUsdHaircutted_eq`: what the checked code computes.
* `amountFromUsdHaircutted_isLeast`: a quote is the least amount that covers the
  value, and the only reason to refuse is that this amount does not fit.
-/

namespace DemocratizedPrime

open Result

/-- A ceiled quotient is at most its dividend, so it fits when the dividend does. -/
theorem ceilDiv_eq {numerator denominator : Nat} (hfits : numerator < 2 ^ 256)
    (hpos : 0 < denominator) :
    ceilDiv numerator denominator = .ok (numerator ⌈/⌉ denominator) := by
  have hsplit : numerator / denominator * denominator + numerator % denominator = numerator :=
    Nat.div_add_mod' numerator denominator
  have hrem := Nat.mod_lt numerator hpos
  rw [Nat.ceilDiv_eq_add_pred_div, ceilDiv, if_neg (Nat.ne_of_gt hpos)]
  by_cases hexact : numerator % denominator = 0
  · rw [if_pos hexact]
    have hceil : (numerator + denominator - 1) / denominator = numerator / denominator := by
      rw [Nat.div_eq_iff hpos]
      omega
    rw [hceil]
  · rw [if_neg hexact]
    have hceil : (numerator + denominator - 1) / denominator = numerator / denominator + 1 := by
      rw [Nat.div_eq_iff hpos, Nat.succ_mul]
      omega
    have hle : numerator / denominator * 1 ≤ numerator / denominator * denominator :=
      Nat.mul_le_mul_left _ hpos
    rw [hceil, uint256_eq_ok]
    exact ⟨by omega, rfl⟩

namespace AssetPriceResponseV1

/-- What an amount is worth to a consumer: the notional, then the haircut, each truncated. -/
def haircuttedAtomics (p : AssetPriceResponseV1) (haircut : Decimal256) (amount : Nat) : Nat :=
  p.valueAtomics amount * haircut.atomics / decimalFractional

/-- The least notional that survives the haircut at `value` or above. -/
def notionalNeeded (value haircut : Decimal256) : Nat :=
  value.atomics * decimalFractional ⌈/⌉ haircut.atomics

/-- The 256-bit intermediates of a quote fit. -/
structure IntermediatesFit (p : AssetPriceResponseV1) (value haircut : Decimal256) : Prop where
  scale : 10 ^ p.valuationInputs.2 < 2 ^ 256
  scaled : value.atomics * decimalFractional < 2 ^ 256
  notional : notionalNeeded value haircut * 10 ^ p.valuationInputs.2 < 2 ^ 256

/-- The least amount that covers `value`. -/
def amountNeeded (p : AssetPriceResponseV1) (value haircut : Decimal256) : Nat :=
  notionalNeeded value haircut * 10 ^ p.valuationInputs.2 ⌈/⌉ p.valuationInputs.1.atomics

variable {p : AssetPriceResponseV1} {value haircut : Decimal256}

/-- Each truncation is inverted by a rounded-up quotient, the outer one first. -/
theorem amountNeeded_le_iff (hprice : 0 < p.valuationInputs.1.atomics)
    (hhaircut : 0 < haircut.atomics) {amount : Nat} :
    p.amountNeeded value haircut ≤ amount ↔ value.atomics ≤ p.haircuttedAtomics haircut amount := by
  have hscale : 0 < 10 ^ p.valuationInputs.2 := Nat.pow_pos (by decide)
  unfold amountNeeded haircuttedAtomics
  calc notionalNeeded value haircut * 10 ^ p.valuationInputs.2 ⌈/⌉
          p.valuationInputs.1.atomics ≤ amount
      ↔ notionalNeeded value haircut * 10 ^ p.valuationInputs.2 ≤
          p.valuationInputs.1.atomics * amount := ceilDiv_le_iff_le_mul hprice
    _ ↔ notionalNeeded value haircut ≤ p.valueAtomics amount :=
        (Nat.le_div_iff_mul_le hscale).symm
    _ ↔ value.atomics * decimalFractional ≤ haircut.atomics * p.valueAtomics amount :=
        ceilDiv_le_iff_le_mul hhaircut
    _ ↔ value.atomics ≤ p.valueAtomics amount * haircut.atomics / decimalFractional := by
        rw [Nat.le_div_iff_mul_le (by decide), Nat.mul_comm haircut.atomics]

theorem amountFromUsdHaircutted_eq (hprice : p.isZeroPrice = false)
    (hhaircut : 0 < haircut.atomics) (hvalue : 0 < value.atomics)
    (hfits : IntermediatesFit p value haircut) :
    p.amountFromUsdHaircutted value haircut =
      okOr (Uint.ofNat? 128 (p.amountNeeded value haircut)) .amountNotRepresentable := by
  have hdisplay : p.valuationInputs.1.isZero = false := hprice
  have hpos : 0 < p.valuationInputs.1.atomics :=
    Nat.pos_of_ne_zero fun h0 => by simp [Decimal256.isZero, h0] at hdisplay
  have hnonzero : value.isZero = false := by
    simp only [Decimal256.isZero, beq_eq_false_iff_ne]
    omega
  have hh : haircut.isZero = false := by
    simp only [Decimal256.isZero, beq_eq_false_iff_ne]
    omega
  have hscale : uint256 (10 ^ p.valuationInputs.2) (.overflow "Price precision overflow") =
      .ok (10 ^ p.valuationInputs.2) := uint256_eq_ok.mpr ⟨hfits.scale, rfl⟩
  have hscaled : uint256 (value.atomics * decimalFractional)
      (.overflow "amount from USD overflow") = .ok (value.atomics * decimalFractional) :=
    uint256_eq_ok.mpr ⟨hfits.scaled, rfl⟩
  have ht : ceilDiv (value.atomics * decimalFractional) haircut.atomics =
      .ok (notionalNeeded value haircut) := ceilDiv_eq hfits.scaled hhaircut
  have hscaledT : uint256 (notionalNeeded value haircut * 10 ^ p.valuationInputs.2)
      (.overflow "amount from USD overflow") =
      .ok (notionalNeeded value haircut * 10 ^ p.valuationInputs.2) :=
    uint256_eq_ok.mpr ⟨hfits.notional, rfl⟩
  have ha : ceilDiv (notionalNeeded value haircut * 10 ^ p.valuationInputs.2)
      p.valuationInputs.1.atomics = .ok (p.amountNeeded value haircut) :=
    ceilDiv_eq hfits.notional hpos
  unfold amountFromUsdHaircutted
  simp only [hnonzero, hh, hdisplay, Bool.false_eq_true, if_false, ensure, if_true, hscale, hscaled,
    ht, hscaledT, ha, ok_bind]

/-- The quote inverts `valueUsd` followed by the haircut. -/
theorem amountFromUsdHaircutted_isLeast (hprice : p.isZeroPrice = false)
    (hhaircut : 0 < haircut.atomics) (hvalue : 0 < value.atomics)
    (hfits : IntermediatesFit p value haircut) :
    (∀ (amount : Uint128) (notional worth : Decimal256),
      p.valueUsd amount = .ok notional → notional.checkedMul haircut = .ok worth →
        worth.atomics = p.haircuttedAtomics haircut amount.val) ∧
    ∃ least, IsLeast {amount | value.atomics ≤ p.haircuttedAtomics haircut amount} least ∧
      (∀ amount, p.amountFromUsdHaircutted value haircut = .ok amount ↔ amount.val = least) ∧
      (p.amountFromUsdHaircutted value haircut = .error .amountNotRepresentable ↔
        2 ^ 128 ≤ least) := by
  have hdisplay : p.valuationInputs.1.isZero = false := hprice
  have hpos : 0 < p.valuationInputs.1.atomics :=
    Nat.pos_of_ne_zero fun h0 => by simp [Decimal256.isZero, h0] at hdisplay
  refine ⟨fun amount notional worth hn hw => ?_, p.amountNeeded value haircut, ⟨?_, ?_⟩, ?_, ?_⟩
  · rw [Decimal256.checkedMul_eq_ok.mp hw, valueUsd_ok hn, haircuttedAtomics]
  · show value.atomics ≤ p.haircuttedAtomics haircut (p.amountNeeded value haircut)
    exact (amountNeeded_le_iff hpos hhaircut).mp (Nat.le_refl _)
  · intro amount hamount
    exact (amountNeeded_le_iff hpos hhaircut).mpr hamount
  · intro amount
    rw [amountFromUsdHaircutted_eq hprice hhaircut hvalue hfits, okOr_eq_ok, Uint.ofNat?_eq_some]
  · rw [amountFromUsdHaircutted_eq hprice hhaircut hvalue hfits, okOr_eq_error,
      Uint.ofNat?_eq_none]

/-- A cheap asset of 18 decimals: USD 0.355 per unit. -/
def cheapQuote : AssetPriceResponseV1 :=
  { priceUsd := Decimal256.zero
    displayPriceUsd := ⟨355000000000000000, by decide⟩
    precision := 18
    asOfEpochSecond := 0
    expirationEpochSeconds := 0 }

/-- USD 1250.000000000000000001 at a haircut of 75%. -/
theorem amountFromUsdHaircutted_isLeast_cheapQuote :
    ∃ least, IsLeast {amount | 1250000000000000000001 ≤
        cheapQuote.haircuttedAtomics ⟨750000000000000000, by decide⟩ amount} least ∧
      ∀ amount, cheapQuote.amountFromUsdHaircutted ⟨1250000000000000000001, by decide⟩
        ⟨750000000000000000, by decide⟩ = .ok amount ↔ amount.val = least := by
  obtain ⟨-, least, hleast, hquote, -⟩ := @amountFromUsdHaircutted_isLeast cheapQuote
    ⟨1250000000000000000001, by decide⟩ ⟨750000000000000000, by decide⟩ (by decide) (by decide)
    (by decide) ⟨by decide, by decide, by decide⟩
  exact ⟨least, hleast, hquote⟩

end AssetPriceResponseV1

end DemocratizedPrime
