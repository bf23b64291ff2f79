import DemocratizedPrime.Pool.Rates
import Mathlib.Order.Bounds.Basic

/-!
# The debt that a loan records

A loan is recorded as scaled units, and these are meant to be worth at least the loan:
`RecordsLoan`.  The units are the quotient of the amount and the borrow index rounded up,
but the quotient has been truncated to 18 decimals before.  A fraction below the last
decimal is lost, and then one unit is missing.

* `FractionKept` is the condition under which no fraction is lost.
* `recordsLoan_iff`: a loan is recorded in full under this condition, and only then; and
  the debt covers it under this condition, or where the fraction of the old debt makes up
  for the missing unit.
-/

namespace DemocratizedPrime

open Result

/-- The scaled units of a loan are the least that are worth the amount, and the debt grows
by the amount at least. -/
def RecordsLoan (amount current : Uint128) (bi : Decimal256) : Prop :=
  (∃ scaled, underlyingToScaledBorrowCeil amount bi = .ok scaled ∧
      IsLeast {n : Nat | amount.val * decimalFractional ≤ n * bi.atomics} scaled.val) ∧
    ∀ debt, debtAfterBorrow current amount bi = .ok debt →
      current.val * bi.atomics / decimalFractional + amount.val ≤ debt.debtAfter.val

/-- What is left of the amount after whole units, in atomics. -/
def loanRemainder (amount : Uint128) (bi : Decimal256) : Nat :=
  amount.val * decimalFractional % bi.atomics

/-- The quotient is a whole number, or its fraction is at least `10 ^ -18`. -/
def FractionKept (amount : Uint128) (bi : Decimal256) : Prop :=
  loanRemainder amount bi = 0 ∨ bi.atomics ≤ loanRemainder amount bi * decimalFractional

/-- At an index of at least one, the units of a loan always fit. -/
theorem exists_underlyingToScaledBorrowCeil (amount : Uint128) {bi : Decimal256}
    (hbi : decimalFractional ≤ bi.atomics) :
    ∃ scaled, underlyingToScaledBorrowCeil amount bi = .ok scaled := by
  have hpos : 0 < bi.atomics := Nat.lt_of_lt_of_le (by decide) hbi
  have hamount := amount.isLt
  have hwhole : amount.val * decimalFractional < 2 ^ 256 := by
    unfold decimalFractional
    omega
  have hquotient : amount.val * decimalFractional * decimalFractional / bi.atomics ≤
      amount.val * decimalFractional := by
    apply Nat.div_le_of_le_mul
    rw [Nat.mul_comm bi.atomics]
    exact Nat.mul_le_mul_left _ hbi
  have hceil : (amount.val * decimalFractional * decimalFractional / bi.atomics +
      (decimalFractional - 1)) / decimalFractional ≤ amount.val :=
    Rounding.ceilDiv_le (by decide) hquotient
  refine ⟨⟨_, Nat.lt_of_le_of_lt hceil hamount⟩, ?_⟩
  have hnonzero : bi.isZero = false := by simp [Decimal256.isZero, Nat.pos_iff_ne_zero.mp hpos]
  simp only [underlyingToScaledBorrowCeil, bind_eq_ok, ensure_eq_ok, exists_const,
    Decimal256.fromRatio_one_eq_ok, Decimal256.checkedDiv_eq_ok, okOr_eq_ok,
    Uint.ofNat?_eq_some]
  refine ⟨hnonzero, ⟨_, hwhole⟩, rfl, ⟨_, Nat.lt_of_le_of_lt hquotient hwhole⟩, ⟨?_, rfl⟩, ?_⟩
  · exact Nat.pos_iff_ne_zero.mp hpos
  · rw [ceilUnits_eq]

/-- The recorded units are worth the amount exactly when no fraction was lost, -/
theorem loan_le_recorded_iff {amount scaled : Uint128} {bi : Decimal256}
    (h : underlyingToScaledBorrowCeil amount bi = .ok scaled) :
    amount.val * decimalFractional ≤ scaled.val * bi.atomics ↔ FractionKept amount bi := by
  obtain ⟨hbi, hscaled⟩ := underlyingToScaledBorrowCeil_eq h
  rw [hscaled]
  exact Rounding.le_ceilDiv_truncated_mul_iff _ (Nat.pos_of_ne_zero hbi) (by decide)

/-- and no smaller number of units is. -/
theorem recorded_le {amount scaled : Uint128} {bi : Decimal256} {n : Nat}
    (h : underlyingToScaledBorrowCeil amount bi = .ok scaled)
    (hn : amount.val * decimalFractional ≤ n * bi.atomics) : scaled.val ≤ n := by
  obtain ⟨-, hscaled⟩ := underlyingToScaledBorrowCeil_eq h
  rw [hscaled]
  exact Rounding.ceilDiv_truncated_le (by decide) hn

/-- Without its fraction, a loan is recorded with the whole units only. -/
theorem recorded_of_lost {amount scaled : Uint128} {bi : Decimal256}
    (h : underlyingToScaledBorrowCeil amount bi = .ok scaled) (hlost : ¬ FractionKept amount bi) :
    scaled.val * bi.atomics + loanRemainder amount bi = amount.val * decimalFractional := by
  obtain ⟨hbi, hscaled⟩ := underlyingToScaledBorrowCeil_eq h
  have hlt : loanRemainder amount bi * decimalFractional < bi.atomics := by
    unfold FractionKept at hlost
    omega
  rw [Rounding.ceilDiv_truncated_eq _ (Nat.pos_of_ne_zero hbi) (by decide)] at hscaled
  have hfraction : loanRemainder amount bi * decimalFractional / bi.atomics = 0 :=
    Nat.div_eq_of_lt hlt
  have hnothing : (0 + (decimalFractional - 1)) / decimalFractional = 0 := by decide
  unfold loanRemainder at hfraction
  rw [hfraction, hnothing, Nat.add_zero] at hscaled
  rw [hscaled]
  exact Nat.div_add_mod' _ _

/-- Where the fraction is lost, the debt still grows by the amount if the fraction of the
old debt makes up for it. -/
theorem debt_covers_loan_iff {amount current : Uint128} {bi : Decimal256} {debt : DebtAfterBorrow}
    (h : debtAfterBorrow current amount bi = .ok debt) :
    current.val * bi.atomics / decimalFractional + amount.val ≤ debt.debtAfter.val ↔
      FractionKept amount bi ∨
        loanRemainder amount bi ≤ current.val * bi.atomics % decimalFractional := by
  obtain ⟨hdelta, hnew, hafter⟩ := debtAfterBorrow_eq h
  have hcurrent := Nat.div_add_mod' (current.val * bi.atomics) decimalFractional
  rw [hafter, hnew, Nat.add_mul, Nat.le_div_iff_mul_le (by decide), Nat.add_mul]
  by_cases hkept : FractionKept amount bi
  · have hworth := (loan_le_recorded_iff hdelta).mpr hkept
    have hfloor := Nat.div_mul_le_self (current.val * bi.atomics) decimalFractional
    constructor
    · intro _
      exact Or.inl hkept
    · intro _
      exact Nat.add_le_add hfloor hworth
  · have hworth := recorded_of_lost hdelta hkept
    constructor
    · intro hle
      exact Or.inr (by linarith)
    · rintro (hkept' | hrest)
      · exact absurd hkept' hkept
      · linarith

/-- A loan is recorded in full exactly when the fraction of its quotient is not lost, and
the debt covers it exactly then or where the old debt makes up for it. -/
theorem recordsLoan_iff (amount current : Uint128) (bi : Decimal256)
    (hbi : decimalFractional ≤ bi.atomics) :
    (RecordsLoan amount current bi ↔ FractionKept amount bi) ∧
      ∀ debt, debtAfterBorrow current amount bi = .ok debt →
        (current.val * bi.atomics / decimalFractional + amount.val ≤ debt.debtAfter.val ↔
          FractionKept amount bi ∨
            loanRemainder amount bi ≤ current.val * bi.atomics % decimalFractional) := by
  refine ⟨⟨?_, ?_⟩, fun debt hdebt => debt_covers_loan_iff hdebt⟩
  · rintro ⟨⟨scaled, hscaled, hleast, -⟩, -⟩
    exact (loan_le_recorded_iff hscaled).mp hleast
  · intro hkept
    obtain ⟨scaled, hscaled⟩ := exists_underlyingToScaledBorrowCeil amount hbi
    refine ⟨⟨scaled, hscaled, (loan_le_recorded_iff hscaled).mpr hkept, ?_⟩, ?_⟩
    · intro n hn
      exact recorded_le hscaled hn
    · intro debt hdebt
      exact (debt_covers_loan_iff hdebt).mpr (Or.inl hkept)

namespace Demo

/-- An index that has grown by the last decimal only. -/
def grownIndex : Decimal256 := ⟨10 ^ 18 + 1, by decide⟩

/-- One token with 18 decimals. -/
def loan : Uint128 := ⟨10 ^ 18, by decide⟩

/-- The loan is recorded as `10 ^ 18 - 1` units, which are worth less. -/
theorem loan_debt : ∃ debt, debtAfterBorrow 0 loan grownIndex = .ok debt ∧
    debt.scaledDelta.val = 10 ^ 18 - 1 ∧ debt.debtAfter.val = 10 ^ 18 - 1 := by
  have hcheck : (match debtAfterBorrow 0 loan grownIndex with
      | .ok debt => decide (debt.scaledDelta.val = 10 ^ 18 - 1) &&
          decide (debt.debtAfter.val = 10 ^ 18 - 1)
      | .error _ => false) = true := by decide +kernel
  split at hcheck
  · rename_i debt hdebt
    simp only [Bool.and_eq_true, decide_eq_true_eq] at hcheck
    exact ⟨debt, hdebt, hcheck⟩
  · cases hcheck

end Demo

theorem recordsLoan_fails :
    ¬ ∀ (amount current : Uint128) (bi : Decimal256), amount.val ≠ 0 →
      decimalFractional ≤ bi.atomics → RecordsLoan amount current bi := by
  intro h
  obtain ⟨-, hcovers⟩ := h Demo.loan 0 Demo.grownIndex (by decide) (by decide)
  obtain ⟨debt, hdebt, -, hafter⟩ := Demo.loan_debt
  have hle := hcovers debt hdebt
  rw [hafter] at hle
  revert hle
  decide

/-- At an index of 1.5 nothing is lost, and at the index above the fraction is. -/
theorem recordsLoan_iff_indexes :
    RecordsLoan 101 0 ⟨15 * 10 ^ 17, by decide⟩ ∧ ¬ RecordsLoan Demo.loan 0 Demo.grownIndex := by
  have hshort := recordsLoan_iff 101 0 ⟨15 * 10 ^ 17, by decide⟩ (by decide)
  have hlong := recordsLoan_iff Demo.loan 0 Demo.grownIndex (by decide)
  refine ⟨hshort.1.mpr (Or.inr (by decide)), fun h => ?_⟩
  rcases hlong.1.mp h with hwhole | hkept
  · revert hwhole
    decide
  · revert hkept
    decide

end DemocratizedPrime
