import DemocratizedPrime.Pool.Rates
import Mathlib.Order.Bounds.Basic

/-!
# The haircut of the suppliers

`applyProRataLiquidityIndexHaircut` spreads a loss by lowering the liquidity
index.  The claims are counted in atomics here: they are `tsl · li`, and a loss of
`n` base units is `n · 10 ^ 18`.

* `haircutRun_eq`: the function works in place, and a failed call writes nothing.
* `applyHaircut_isOk`: when a haircut is accepted.
* `applyHaircut_claims`: what it takes off the claims.
* `haircut_exact`: both, with the new index as a greatest element, and two losses
  in turn compared with their sum at once.
-/

namespace DemocratizedPrime

open Result

/-- The function on the reserve of its caller: the index is written after the last check. -/
def applyProRataLiquidityIndexHaircutInPlace (underlyingLoss : Uint128) :
    InPlace ContractError ReserveStateV1 Unit :=
  if underlyingLoss.val = 0 then return ()
  else do
    let reserve ← get
    let l ← .check reserve.totalLiquidity
    .check (ensure (l.isZero = false)
      (illegalState "cannot apply liquidity index haircut: total_liquidity is zero"))
    let d ← .check (Decimal256.fromRatio underlyingLoss.val 1)
    .check (ensure (d < l) (illegalState
      "bad debt loss meets or exceeds total_liquidity; cannot apply index-only haircut"))
    let scaled ← .check (Decimal256.fromRatio reserve.totalScaledLiquidity.val 1)
    .check (ensure (scaled.isZero = false)
      (illegalState "cannot apply liquidity index haircut: total_scaled_liquidity is zero"))
    let remaining ← .check (l.checkedSub d)
    let newIndex ← .check (remaining.checkedDiv scaled)
    .check (ensure (newIndex.isZero = false)
      (illegalState "liquidity index haircut would truncate liquidity_index to zero"))
    set { reserve with liquidityIndex := newIndex }

/-- What a call returns, and the reserve that it leaves behind. -/
def haircutRun (reserve : ReserveStateV1) (loss : Uint128) :
    Except ContractError Unit × ReserveStateV1 :=
  (applyProRataLiquidityIndexHaircutInPlace loss).run reserve

/-- The two forms agree, and a failed call leaves the reserve alone. -/
theorem haircutRun_eq (r : ReserveStateV1) (loss : Uint128) :
    haircutRun r loss = overwriting r (applyProRataLiquidityIndexHaircut r loss) := by
  unfold haircutRun applyProRataLiquidityIndexHaircutInPlace applyProRataLiquidityIndexHaircut
  by_cases hzero : loss.val = 0
  · rw [if_pos hzero, if_pos hzero]
    rfl
  · rw [if_neg hzero, if_neg hzero]
    rw [get_bind_run]
    apply check_bind_run
    intro l
    apply check_bind_run
    intro _
    apply check_bind_run
    intro d
    apply check_bind_run
    intro _
    apply check_bind_run
    intro scaled
    apply check_bind_run
    intro _
    apply check_bind_run
    intro remaining
    apply check_bind_run
    intro newIndex
    apply check_bind_run
    intro _
    rfl

/-! ## What a haircut takes -/

/-- All lenders' balances, in atomics of a base unit. -/
def ReserveStateV1.claimAtomics (r : ReserveStateV1) : Nat :=
  r.totalScaledLiquidity.val * r.liquidityIndex.atomics

section

variable {r r' : ReserveStateV1} {loss : Uint128}

theorem applyHaircut_isOk (hfits : r.claimAtomics < 2 ^ 256) (hpos : 0 < loss.val) :
    (∃ r', applyProRataLiquidityIndexHaircut r loss = .ok r') ↔
      loss.val * decimalFractional < r.claimAtomics ∧
        (r.claimAtomics - loss.val * decimalFractional) / r.totalScaledLiquidity.val ≠ 0 := by
  constructor
  · rintro ⟨r', h⟩
    obtain ⟨-, -, hlt, hindex, hnonzero⟩ := applyHaircut_eq h hpos
    exact ⟨hlt, hindex ▸ hnonzero⟩
  · rintro ⟨hlt, hquot⟩
    have htsl : r.totalScaledLiquidity.val ≠ 0 := by
      intro hzero
      rw [hzero, Nat.div_zero] at hquot
      exact hquot rfl
    have hindex : (r.claimAtomics - loss.val * decimalFractional) * decimalFractional /
        (r.totalScaledLiquidity.val * decimalFractional) =
        (r.claimAtomics - loss.val * decimalFractional) / r.totalScaledLiquidity.val :=
      Nat.mul_div_mul_right _ _ (by decide)
    have hfits' : (r.claimAtomics - loss.val * decimalFractional) / r.totalScaledLiquidity.val <
        2 ^ 256 := by
      have hle := Nat.div_le_self (r.claimAtomics - loss.val * decimalFractional)
        r.totalScaledLiquidity.val
      omega
    unfold applyProRataLiquidityIndexHaircut
    rw [if_neg (Nat.ne_of_gt hpos)]
    refine ⟨{ r with liquidityIndex := ⟨_, hfits'⟩ }, ?_⟩
    simp only [bind_eq_ok, ensure_eq_ok, exists_const, totalLiquidity_eq_ok,
      Decimal256.fromRatio_one_eq_ok, Decimal256.checkedSub_eq_ok, Decimal256.checkedDiv_eq_ok,
      Decimal256.lt_def, pure_eq_ok, Decimal256.isZero, beq_eq_false_iff_ne]
    refine ⟨⟨r.claimAtomics, hfits⟩, rfl, ?_, ⟨_, Decimal256.units_lt loss⟩, rfl, hlt,
      ⟨_, Decimal256.units_lt r.totalScaledLiquidity⟩, rfl, ?_,
      ⟨r.claimAtomics - loss.val * decimalFractional, by omega⟩, ?_, ⟨_, hfits'⟩, ?_, hquot, rfl⟩
    · exact Nat.ne_of_gt (Nat.zero_lt_of_lt hlt)
    · exact Nat.mul_ne_zero htsl (by decide)
    · exact Nat.sub_add_cancel (Nat.le_of_lt hlt)
    · exact ⟨Nat.mul_ne_zero htsl (by decide), hindex.symm⟩

/-- The claims fall by the loss, and by less than one atomic of the index more. -/
theorem applyHaircut_claims (h : applyProRataLiquidityIndexHaircut r loss = .ok r')
    (hpos : 0 < loss.val) :
    r'.claimAtomics + loss.val * decimalFractional ≤ r.claimAtomics ∧
      r.claimAtomics < r'.claimAtomics + loss.val * decimalFractional +
        r.totalScaledLiquidity.val := by
  obtain ⟨hframe, htsl, hlt, hindex, -⟩ := applyHaircut_eq h hpos
  have hsame : r'.totalScaledLiquidity = r.totalScaledLiquidity := by rw [hframe]
  have hfloor := Nat.div_mul_le_self (r.claimAtomics - loss.val * decimalFractional)
    r.totalScaledLiquidity.val
  have hceil := Nat.lt_div_mul_add (a := r.claimAtomics - loss.val * decimalFractional)
    (Nat.pos_of_ne_zero htsl)
  have hnew : r'.claimAtomics =
      (r.claimAtomics - loss.val * decimalFractional) / r.totalScaledLiquidity.val *
        r.totalScaledLiquidity.val := by
    rw [ReserveStateV1.claimAtomics, hsame, hindex, Nat.mul_comm]
    rfl
  have hlt' : loss.val * decimalFractional < r.claimAtomics := hlt
  omega

theorem applyHaircut_isGreatest (h : applyProRataLiquidityIndexHaircut r loss = .ok r')
    (hpos : 0 < loss.val) :
    IsGreatest {index | r.totalScaledLiquidity.val * index + loss.val * decimalFractional ≤
      r.claimAtomics} r'.liquidityIndex.atomics := by
  obtain ⟨hframe, htsl, hlt, hindex, -⟩ := applyHaircut_eq h hpos
  have hlt' : loss.val * decimalFractional < r.claimAtomics := hlt
  constructor
  · have hclaims := (applyHaircut_claims h hpos).1
    rw [ReserveStateV1.claimAtomics, hframe] at hclaims
    exact hclaims
  · intro index hle
    have hmul : index * r.totalScaledLiquidity.val ≤
        r.claimAtomics - loss.val * decimalFractional := by
      rw [Nat.mul_comm]
      exact Nat.le_sub_of_add_le hle
    rw [hindex]
    exact (Nat.le_div_iff_mul_le (Nat.pos_of_ne_zero htsl)).mpr hmul

/-- Each of two losses in turn is rounded against the lenders, by less than one atomic of
the index. -/
theorem applyHaircut_split {x y both : Uint128} {r₁ r₂ joint : ReserveStateV1}
    (hx : 0 < x.val) (hy : 0 < y.val) (hboth : both.val = x.val + y.val)
    (h₁ : applyProRataLiquidityIndexHaircut r x = .ok r₁)
    (h₂ : applyProRataLiquidityIndexHaircut r₁ y = .ok r₂)
    (hjoint : applyProRataLiquidityIndexHaircut r both = .ok joint) :
    r₂.claimAtomics ≤ joint.claimAtomics ∧
      joint.claimAtomics < r₂.claimAtomics + 2 * r.totalScaledLiquidity.val := by
  have hpos : 0 < both.val := by omega
  have hsame : r₁.totalScaledLiquidity = r.totalScaledLiquidity := by
    rw [applyHaircut_frame h₁]
  have hframe₂ : r₂.totalScaledLiquidity = r.totalScaledLiquidity := by
    rw [applyHaircut_frame h₂, ← hsame]
  have hframe : joint.totalScaledLiquidity = r.totalScaledLiquidity := by
    rw [applyHaircut_frame hjoint]
  have hsum : both.val * decimalFractional =
      x.val * decimalFractional + y.val * decimalFractional := by
    rw [hboth, Nat.add_mul]
  obtain ⟨hlow₁, hhigh₁⟩ := applyHaircut_claims h₁ hx
  obtain ⟨hlow₂, hhigh₂⟩ := applyHaircut_claims h₂ hy
  obtain ⟨hlow, hhigh⟩ := applyHaircut_claims hjoint hpos
  rw [hsame] at hhigh₂
  constructor
  · -- The joint index is the greatest that covers the sum, and the split one covers it.
    have hcovers : r.totalScaledLiquidity.val * r₂.liquidityIndex.atomics +
        both.val * decimalFractional ≤ r.claimAtomics := by
      have hclaim : r₂.claimAtomics =
          r.totalScaledLiquidity.val * r₂.liquidityIndex.atomics := by
        rw [ReserveStateV1.claimAtomics, hframe₂]
      omega
    have hle := (applyHaircut_isGreatest hjoint hpos).2 hcovers
    rw [ReserveStateV1.claimAtomics, ReserveStateV1.claimAtomics, hframe, hframe₂]
    exact Nat.mul_le_mul_left _ hle
  · omega

end

/-! ## The haircut in place -/

theorem haircutRun_ok {r r' : ReserveStateV1} {loss : Uint128} :
    haircutRun r loss = (.ok (), r') ↔ applyProRataLiquidityIndexHaircut r loss = .ok r' := by
  rw [haircutRun_eq]
  cases applyProRataLiquidityIndexHaircut r loss <;> simp [overwriting]

/-- The haircut in place is the one that the handlers call, and it is exact.  Claims and losses are
in atomics of a base unit. -/
theorem haircut_exact (r : ReserveStateV1) (hfits : r.claimAtomics < 2 ^ 256) :
    (∀ loss, haircutRun r loss = overwriting r (applyProRataLiquidityIndexHaircut r loss)) ∧
    (∀ loss : Uint128, 0 < loss.val →
      ((haircutRun r loss).1 = .ok () ↔ loss.val * decimalFractional < r.claimAtomics ∧
        (r.claimAtomics - loss.val * decimalFractional) / r.totalScaledLiquidity.val ≠ 0) ∧
      (∀ r', haircutRun r loss = (.ok (), r') →
        IsGreatest {index | r.totalScaledLiquidity.val * index + loss.val * decimalFractional ≤
          r.claimAtomics} r'.liquidityIndex.atomics ∧
        0 < r'.liquidityIndex.atomics ∧ r'.liquidityIndex ≤ r.liquidityIndex ∧
        r'.claimAtomics + loss.val * decimalFractional ≤ r.claimAtomics ∧
        r.claimAtomics < r'.claimAtomics + loss.val * decimalFractional +
          r.totalScaledLiquidity.val ∧
        r' = { r with liquidityIndex := r'.liquidityIndex }) ∧
      ∀ e, (haircutRun r loss).1 = .error e → (haircutRun r loss).2 = r) ∧
    ∀ (x y both : Uint128) (r₁ r₂ joint : ReserveStateV1), 0 < x.val → 0 < y.val →
      both.val = x.val + y.val → haircutRun r x = (.ok (), r₁) → haircutRun r₁ y = (.ok (), r₂) →
      haircutRun r both = (.ok (), joint) →
      r₂.claimAtomics ≤ joint.claimAtomics ∧
        joint.claimAtomics < r₂.claimAtomics + 2 * r.totalScaledLiquidity.val := by
  refine ⟨haircutRun_eq r, fun loss hpos => ⟨?_, ?_, ?_⟩, ?_⟩
  · rw [← applyHaircut_isOk hfits hpos, haircutRun_eq]
    cases applyProRataLiquidityIndexHaircut r loss <;> simp [overwriting]
  · intro r' hrun
    have h := haircutRun_ok.mp hrun
    have hgreatest := applyHaircut_isGreatest h hpos
    obtain ⟨hlow, hhigh⟩ := applyHaircut_claims h hpos
    obtain ⟨hframe, htsl, -, -, hnonzero⟩ := applyHaircut_eq h hpos
    have hle : r.totalScaledLiquidity.val * r'.liquidityIndex.atomics ≤
        r.totalScaledLiquidity.val * r.liquidityIndex.atomics :=
      Nat.le_trans (Nat.le_add_right _ _) hgreatest.1
    exact ⟨hgreatest, Nat.pos_of_ne_zero hnonzero,
      Nat.le_of_mul_le_mul_left hle (Nat.pos_of_ne_zero htsl), hlow, hhigh, hframe⟩
  · intro e he
    rw [haircutRun_eq] at he ⊢
    cases hcall : applyProRataLiquidityIndexHaircut r loss with
    | ok r' =>
      rw [hcall] at he
      cases he
    | error e' => rfl
  · intro x y both r₁ r₂ joint hx hy hboth h₁ h₂ hjoint
    exact applyHaircut_split hx hy hboth (haircutRun_ok.mp h₁) (haircutRun_ok.mp h₂)
      (haircutRun_ok.mp hjoint)

/-- A reserve of a hundred units, all of them the lenders'. -/
def hundredLent : ReserveStateV1 :=
  { liquidityIndex := Decimal256.one
    borrowIndex := Decimal256.one
    lastUpdatedAt := ⟨0⟩
    totalScaledLiquidity := 100
    totalScaledBorrow := 0
    accruedReserve := 0
    deficitUnderlying := 0 }

/-- A loss of 30 out of 100 is accepted, and one of 100 is not. -/
theorem haircut_exact_hundredLent :
    (haircutRun hundredLent 30).1 = .ok () ∧ (haircutRun hundredLent 100).1 ≠ .ok () := by
  have h := haircut_exact hundredLent (by decide)
  constructor
  · exact (h.2.1 30 (by decide)).1.mpr (by decide)
  · intro hok
    exact absurd ((h.2.1 100 (by decide)).1.mp hok).1 (by decide)

end DemocratizedPrime
