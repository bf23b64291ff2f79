import DemocratizedPrime.Pool.Invariants.ConfigSafety
import DemocratizedPrime.Pool.Replay

/-!
# The order of health

A position is weakened by more debt, by fewer holdings, and by prices that go missing.
Then its health does not get better (`health_monotone`).

The ratio itself has no such order.  It is one as soon as the collateral is worth nothing,
whatever it was before, and zero while the debt is worth nothing.  What holds is this: the
value of the collateral falls (`collateralValue_mono`), that of the debt rises
(`debtValue_mono`), and a ratio below one rises with them (`ltvAtomics_le`).  A ratio of at
least one is in the worst class, because the liquidation rate is at most one.
-/

namespace DemocratizedPrime

namespace BorrowerHealthV1

/-- The place of a class in the order from the best to the worst. -/
def severity : BorrowerHealthV1 → Nat
  | .healthy => 0
  | .unhealthy => 1
  | .liquidatable => 2

instance : Preorder BorrowerHealthV1 := Preorder.lift severity

theorem le_def {h h' : BorrowerHealthV1} : h ≤ h' ↔ h.severity ≤ h'.severity := Iff.rfl

theorem le_liquidatable (h : BorrowerHealthV1) : h ≤ .liquidatable := by
  cases h <;> decide

/-- Only the worst class is as bad as the worst class. -/
theorem eq_liquidatable_of_le {h : BorrowerHealthV1} (hle : .liquidatable ≤ h) :
    h = .liquidatable := by
  cases h with
  | healthy => exact absurd hle (by decide)
  | unhealthy => exact absurd hle (by decide)
  | liquidatable => rfl

theorem ne_healthy_of_le {h : BorrowerHealthV1} (hle : .unhealthy ≤ h) : h ≠ .healthy := by
  rintro rfl
  exact absurd hle (by decide)

end BorrowerHealthV1

/-- A higher ratio is not in a better class. -/
theorem getHealthFromLtv_mono {c : ContractStateV1} {ltv ltv' : Decimal256} (h : ltv ≤ ltv') :
    getHealthFromLtv c ltv ≤ getHealthFromLtv c ltv' := by
  unfold getHealthFromLtv
  by_cases hbad : c.liquidationRate ≤ ltv'
  · rw [if_pos hbad]
    exact BorrowerHealthV1.le_liquidatable _
  · have hok : ¬ c.liquidationRate ≤ ltv := fun hle => hbad (Nat.le_trans hle h)
    rw [if_neg hbad, if_neg hok]
    by_cases hwarn : c.marginRate < ltv
    · have hwarn' : c.marginRate < ltv' := Nat.lt_of_lt_of_le hwarn h
      rw [if_pos hwarn, if_pos hwarn']
    · rw [if_neg hwarn]
      split
      · decide
      · decide

/-! ## Weaker positions -/

section

variable {prices prices' : PriceMap} {col col' : Amounts} {debt debt' : Uint128}
  {sup : List CollateralAssetV1}

/-- What weakens a position: more debt, fewer holdings, and prices that are no longer there. -/
structure Weakened (prices prices' : PriceMap) (col col' : Amounts) (debt debt' : Uint128) :
    Prop where
  debt : debt.val ≤ debt'.val
  holdings : ∀ a, (amountOf col' a).val ≤ (amountOf col a).val
  prices : ∀ (a : String) (p : AssetPriceResponseV1), prices'[a]? = some p → prices[a]? = some p

theorem valueAtomics_mono (p : AssetPriceResponseV1) {m n : Nat} (h : m ≤ n) :
    p.valueAtomics m ≤ p.valueAtomics n :=
  Nat.div_le_div_right (Nat.mul_le_mul_left _ h)

/-- A part of a holding is worth at most the whole, and nothing without a price. -/
theorem assetValue_mono {a : String} {m n : Nat}
    (hprices : ∀ p, prices'[a]? = some p → prices[a]? = some p) (h : m ≤ n) :
    assetValue prices' sup a m ≤ assetValue prices sup a n := by
  unfold assetValue
  cases hp : prices'[a]? with
  | none => exact Nat.zero_le _
  | some p =>
    rw [hprices p hp]
    exact Nat.div_le_div_right (Nat.mul_le_mul_right _ (valueAtomics_mono p h))

/-- The value of a collateral map, asset by asset. -/
theorem collateralValue_eq_sum {assets : Finset String}
    (h : ∀ a, (amountOf col a).val ≠ 0 → a ∈ assets) :
    collateralValue prices sup col =
      ∑ a ∈ assets, assetValue prices sup a (amountOf col a).val :=
  sum_toList_eq_sum_assets (assetValue_zero prices sup) col h

theorem collateralValue_mono (h : Weakened prices prices' col col' debt debt') :
    collateralValue prices' sup col' ≤ collateralValue prices sup col := by
  have hcover : ∀ a, (amountOf col' a).val ≠ 0 → a ∈ assetSet col := by
    intro a ha
    have hle := h.holdings a
    exact mem_assetSet (by omega)
  rw [collateralValue_eq_sum hcover, collateralValue_eq_sum fun a => mem_assetSet]
  exact Finset.sum_le_sum fun a _ => assetValue_mono (h.prices a) (h.holdings a)

/-- The price of the lending denomination is still there when the larger debt has a value. -/
theorem debtValue_mono {lending : String} {v : Decimal256}
    (h : Weakened prices prices' col col' debt debt')
    (hvalue : calculateBorrowValueUsd debt' lending prices' = .ok v) :
    debtValue prices lending debt.val ≤ debtValue prices' lending debt'.val := by
  have hdebt := h.debt
  by_cases hzero : debt.val = 0
  · rw [hzero]
    unfold debtValue
    cases prices[lending]? <;> simp
  · have hpositive : debt'.val ≠ 0 := by omega
    rw [calculateBorrowValueUsd, if_neg hpositive] at hvalue
    simp only [Result.bind_eq_ok, Result.okOr_eq_ok] at hvalue
    obtain ⟨p, hp, -⟩ := hvalue
    unfold debtValue
    rw [hp, h.prices lending p hp]
    exact valueAtomics_mono p hdebt

/-- A weaker position is not in a better class. -/
theorem getBorrowerHealth_mono {c : ContractStateV1} {b b' : BorrowerHealth}
    (hrate : c.liquidationRate ≤ Decimal256.one)
    (hweak : Weakened prices prices' col col' debt debt')
    (h : getBorrowerHealth c sup prices col debt = .ok b)
    (h' : getBorrowerHealth c sup prices' col' debt' = .ok b') : b.health ≤ b'.health := by
  obtain ⟨hhealth, hltv⟩ := getBorrowerHealth_eq h
  obtain ⟨hhealth', hltv'⟩ := getBorrowerHealth_eq h'
  obtain ⟨v, hvalue⟩ : ∃ v, calculateBorrowValueUsd debt' c.lendingDenom.name prices' = .ok v := by
    simp only [getBorrowerHealth, calculateLtv, Result.bind_eq_ok] at h'
    obtain ⟨_, ⟨v, hv, -⟩, -⟩ := h'
    exact ⟨v, hv⟩
  by_cases hlt : b'.loanToValue.atomics < decimalFractional
  · have hle : b.loanToValue ≤ b'.loanToValue := by
      rw [hltv'] at hlt
      rw [Decimal256.le_def, hltv, hltv']
      exact ltvAtomics_le (debtValue_mono hweak hvalue) (collateralValue_mono hweak) hlt
    rw [hhealth, hhealth']
    exact getHealthFromLtv_mono hle
  · -- The worst class takes every ratio from one on.
    have hworst : b'.health = .liquidatable := by
      rw [hhealth', getHealthFromLtv_liquidatable_iff, Decimal256.le_def]
      rw [Decimal256.le_def, Decimal256.atomics_one] at hrate
      omega
    rw [hworst]
    exact b.health.le_liquidatable

/-- More debt, fewer holdings or missing prices never take a position out of liquidation, nor
an unhealthy one back to health. -/
theorem health_monotone {c : ContractStateV1} {b b' : BorrowerHealth}
    (hrate : c.liquidationRate ≤ Decimal256.one)
    (hweak : Weakened prices prices' col col' debt debt')
    (h : getBorrowerHealth c sup prices col debt = .ok b)
    (h' : getBorrowerHealth c sup prices' col' debt' = .ok b') :
    (b.health = .liquidatable → b'.health = .liquidatable) ∧
      (b.health = .unhealthy → b'.health = .unhealthy ∨ b'.health = .liquidatable) := by
  have hle := getBorrowerHealth_mono hrate hweak h h'
  constructor
  · intro hbad
    rw [hbad] at hle
    exact BorrowerHealthV1.eq_liquidatable_of_le hle
  · intro hwarned
    rw [hwarned] at hle
    have hne := BorrowerHealthV1.ne_healthy_of_le hle
    cases hclass : b'.health with
    | healthy => exact absurd hclass hne
    | unhealthy => exact Or.inl rfl
    | liquidatable => exact Or.inr rfl

end

namespace Demo

/-- `usd` at one dollar, and `gold` at ten. -/
def prices : PriceMap := ((∅ : PriceMap).insert "usd" (quote 1)).insert "gold" (quote 10)

/-- A debt of 650 against 100 units of gold, and one of 660 against 90 units whose price is
gone. -/
def weakenedCheck (s : PoolStorage) : Bool :=
  let sup := s.contract.supportedCollateralAssets
  match getBorrowerHealth s.contract sup prices ((∅ : Amounts).insert "gold" 100) 650,
    getBorrowerHealth s.contract sup (prices.erase "gold") ((∅ : Amounts).insert "gold" 90)
      660 with
  | .ok b, .ok _ => decide (b.health = .unhealthy ∧ s.contract.liquidationRate ≤ Decimal256.one)
  | _, _ => false

theorem weakened_ok :
    replayCheck (deps 10) (env 0) ⟨"owner", []⟩ msg [] weakenedCheck = true := by
  decide +kernel

end Demo

theorem health_monotone_demo :
    ∃ (s : PoolStorage) (b b' : BorrowerHealth), b.health = .unhealthy ∧
      getBorrowerHealth s.contract s.contract.supportedCollateralAssets
        (Demo.prices.erase "gold") ((∅ : Amounts).insert "gold" 90) 660 = .ok b' ∧
      (b'.health = .unhealthy ∨ b'.health = .liquidatable) := by
  obtain ⟨s₀, ts, s, -, -, -, hcheck⟩ := exists_run Demo.weakened_ok
  unfold Demo.weakenedCheck at hcheck
  dsimp only at hcheck
  split at hcheck
  · rename_i b b' h h'
    obtain ⟨hclass, hrate⟩ := of_decide_eq_true hcheck
    have hweak : Weakened Demo.prices (Demo.prices.erase "gold")
        ((∅ : Amounts).insert "gold" 100) ((∅ : Amounts).insert "gold" 90) 650 660 := by
      refine ⟨by decide, fun a => ?_, fun a p hp => ?_⟩
      · rw [amountOf_insert, amountOf_insert]
        split
        · decide
        · exact Nat.le_refl _
      · rw [TreeMap.getElem?_erase_eq] at hp
        split at hp
        · cases hp
        · exact hp
    exact ⟨s, b, b', hclass, h', (health_monotone hrate hweak h h').2 hclass⟩
  · cases hcheck

end DemocratizedPrime
