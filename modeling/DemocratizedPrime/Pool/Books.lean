import DemocratizedPrime.Pool.Steps
import DemocratizedPrime.Lib.LendingBooks
import Mathlib.Tactic.LinearCombination

/-!
# The books of the pool

`booksOf cash r` are the books of a pool that holds `cash` and has the reserve `r`, in
exact amounts: the scaled totals times the indexes, which the code never computes
without rounding.  Each lemma here takes the equations of one kind of message, whose
roundings are all different, and says which `Move` of the books it is.

`cash'` is the balance after the message.  The balance moves by what comes in and goes
out, `cash' + out = cash + paid`; a send may return to the pool, so what goes out is at
most what is sent.
-/

namespace DemocratizedPrime

open Result Decimal256 LendingBooks

/-- The books of a pool with the given cash. -/
def booksOf (cash : Nat) (r : ReserveStateV1) : Books ℚ where
  cash := cash
  debt := r.debt
  deficit := r.deficitUnderlying.val
  claims := r.claims
  reserve := r.accruedReserve.val

/-! ## Exact values -/

/-- Scaled units worth at most the base units of a floored quotient. -/
theorem scaled_toRat_le {scaled underlying : Nat} {i : Decimal256}
    (h : scaled = underlying * decimalFractional / i.atomics) :
    (scaled : ℚ) * i.toRat ≤ underlying := by
  have hle := Rounding.floorDiv_mul_le (K := ℚ) (underlying * decimalFractional) i.atomics
  rw [← h] at hle
  push_cast at hle
  rw [toRat, mul_div_assoc', div_le_iff₀ (by positivity)]
  exact_mod_cast hle

/-- The floored value of scaled units is at most their value, -/
theorem floored_le_toRat {scaled underlying : Nat} {i : Decimal256}
    (h : underlying = scaled * i.atomics / decimalFractional) :
    (underlying : ℚ) ≤ scaled * i.toRat := by
  have hle := Rounding.floorDiv_mul_le (K := ℚ) (scaled * i.atomics) decimalFractional
  rw [← h] at hle
  push_cast at hle
  rw [toRat, mul_div_assoc', le_div_iff₀ (by positivity)]
  exact_mod_cast hle

/-- and falls short of it by less than one unit. -/
theorem toRat_lt_floored {scaled underlying : Nat} {i : Decimal256}
    (h : underlying = scaled * i.atomics / decimalFractional) :
    (scaled : ℚ) * i.toRat < underlying + 1 := by
  have hlt := Rounding.lt_floorDiv_add_one_mul (K := ℚ) (scaled * i.atomics)
    (d := decimalFractional) (by decide)
  rw [← h] at hlt
  push_cast at hlt
  rw [toRat, mul_div_assoc', div_lt_iff₀ (by positivity)]
  exact_mod_cast hlt

/-- The ceiled value of scaled units is at least their value, -/
theorem toRat_le_ceiled {scaled underlying : Nat} {i : Decimal256}
    (h : underlying = (scaled * i.atomics + (decimalFractional - 1)) / decimalFractional) :
    (scaled : ℚ) * i.toRat ≤ underlying := by
  have hle := Rounding.le_ceilDiv_mul (K := ℚ) (scaled * i.atomics) (d := decimalFractional)
    (by decide)
  rw [← h] at hle
  push_cast at hle
  rw [toRat, mul_div_assoc', div_le_iff₀ (by positivity)]
  exact_mod_cast hle

/-- and exceeds it by less than one unit. -/
theorem ceiled_lt_toRat {scaled underlying : Nat} {i : Decimal256}
    (h : underlying = (scaled * i.atomics + (decimalFractional - 1)) / decimalFractional) :
    (underlying : ℚ) < scaled * i.toRat + 1 := by
  have hlt := Rounding.ceilDiv_mul_lt (K := ℚ) (scaled * i.atomics) (d := decimalFractional)
    (by decide)
  rw [← h] at hlt
  push_cast at hlt
  rw [toRat, mul_div_assoc', ← sub_lt_iff_lt_add, lt_div_iff₀ (by positivity), sub_mul, one_mul,
    sub_lt_iff_lt_add]
  exact_mod_cast hlt

/-- New debt exceeds the loan by less than one scaled unit. -/
theorem debt_lt_loan {scaled amount : Nat} {i : Decimal256} (hi : i.atomics ≠ 0)
    (h : scaled = (amount * decimalFractional * decimalFractional / i.atomics +
      (decimalFractional - 1)) / decimalFractional) :
    (scaled : ℚ) * i.toRat < amount + i.toRat := by
  have hpos := Nat.pos_of_ne_zero hi
  have hceil : amount * decimalFractional ≤
      (amount * decimalFractional + (i.atomics - 1)) / i.atomics * i.atomics := by
    exact_mod_cast Rounding.le_ceilDiv_mul (K := ℚ) (amount * decimalFractional) hpos
  have hle : scaled ≤ (amount * decimalFractional + (i.atomics - 1)) / i.atomics := by
    rw [h]
    exact Rounding.ceilDiv_truncated_le (by decide) hceil
  have hlt := Rounding.ceilDiv_mul_lt (K := ℚ) (amount * decimalFractional) hpos
  have hscaled : (scaled : ℚ) * i.atomics < amount * decimalFractional + i.atomics := by
    refine lt_of_le_of_lt (mul_le_mul_of_nonneg_right (Nat.cast_le.mpr hle) (Nat.cast_nonneg _)) ?_
    exact_mod_cast hlt
  rw [toRat_eq]
  calc (scaled : ℚ) * (i.atomics * ulp) = scaled * i.atomics * ulp := by ring
    _ < (amount * decimalFractional + i.atomics) * ulp := mul_lt_mul_of_pos_right hscaled ulp_pos
    _ = amount + i.atomics * ulp := by
        linear_combination (amount : ℚ) * ulp_mul_decimalFractional

/-- New debt falls short of the loan by less than `borrow_index · 10 ^ -18`: the quotient
is truncated to 18 decimals, and then rounded up to a whole unit. -/
theorem loan_lt_debt {scaled amount : Nat} {i : Decimal256} (hi : i.atomics ≠ 0)
    (h : scaled = (amount * decimalFractional * decimalFractional / i.atomics +
      (decimalFractional - 1)) / decimalFractional) :
    (amount : ℚ) < scaled * i.toRat + i.toRat * ulp := by
  have hnat := Rounding.lt_ceilDiv_floorDiv_mul (amount * decimalFractional * decimalFractional)
    (i := i.atomics) (d := decimalFractional) (Nat.pos_of_ne_zero hi) (by decide)
  rw [← h] at hnat
  have hlt : (amount : ℚ) * decimalFractional * decimalFractional <
      (scaled * decimalFractional + 1) * i.atomics := by exact_mod_cast hnat
  rw [toRat_eq]
  calc (amount : ℚ) = amount * decimalFractional * decimalFractional * (ulp * ulp) := by
        linear_combination (-(amount : ℚ) * (1 + ulp * decimalFractional)) *
          ulp_mul_decimalFractional
    _ < (scaled * decimalFractional + 1) * i.atomics * (ulp * ulp) :=
        mul_lt_mul_of_pos_right hlt (mul_pos ulp_pos ulp_pos)
    _ = scaled * (i.atomics * ulp) + i.atomics * ulp * ulp := by
        linear_combination ((scaled : ℚ) * i.atomics * ulp) * ulp_mul_decimalFractional

/-- A payment cancels debt of at most its value: all of it at the ceiled price, or the
floored units. -/
theorem repaid_toRat_le {applied payoff scaled cancelled : Uint128} {i : Decimal256}
    (hpayoff : payoff.val = (scaled.val * i.atomics + (decimalFractional - 1)) / decimalFractional)
    (h : scaledRepayFor applied payoff scaled i = .ok cancelled) :
    (cancelled.val : ℚ) * i.toRat ≤ applied.val := by
  rcases scaledRepayFor_spec h with ⟨hle, rfl⟩ | ⟨-, -, hcancelled⟩
  · have hprice := toRat_le_ceiled hpayoff
    have hcast : (payoff.val : ℚ) ≤ applied.val := by exact_mod_cast hle
    exact le_trans hprice hcast
  · exact scaled_toRat_le hcancelled

/-- A haircut takes at least the loss off the claims, -/
theorem haircut_claims_le {r r' : ReserveStateV1} {loss : Uint128}
    (h : applyProRataLiquidityIndexHaircut r loss = .ok r') : r'.claims ≤ r.claims - loss.val := by
  by_cases hzero : loss.val = 0
  · rw [applyHaircut_zero h hzero, hzero]
    simp
  · obtain ⟨hframe, -, hlt, hindex, -⟩ := applyHaircut_eq h (by omega)
    have hle := Rounding.floorDiv_mul_le (K := ℚ) (r.totalScaledLiquidity.val *
      r.liquidityIndex.atomics - loss.val * decimalFractional) r.totalScaledLiquidity.val
    rw [← hindex, Nat.cast_sub hlt.le] at hle
    push_cast at hle
    have htotal : r'.totalScaledLiquidity = r.totalScaledLiquidity := by rw [hframe]
    have hscale : (r.totalScaledLiquidity.val : ℚ) * r'.liquidityIndex.toRat ≤
        r.totalScaledLiquidity.val * r.liquidityIndex.toRat - loss.val := by
      rw [toRat, toRat, mul_div_assoc', mul_div_assoc', div_le_iff₀ (by positivity), sub_mul,
        div_mul_cancel₀ _ (by positivity)]
      push_cast
      linarith
    rw [ReserveStateV1.claims, ReserveStateV1.claims, htotal]
    exact hscale

/-- and at most one `ulp` of the index more. -/
theorem le_haircut_claims {r r' : ReserveStateV1} {loss : Uint128}
    (h : applyProRataLiquidityIndexHaircut r loss = .ok r') :
    r.claims - loss.val - r.totalScaledLiquidity.val * ulp ≤ r'.claims := by
  by_cases hzero : loss.val = 0
  · have hdust : 0 ≤ (r.totalScaledLiquidity.val : ℚ) * ulp :=
      mul_nonneg (Nat.cast_nonneg _) ulp_pos.le
    rw [applyHaircut_zero h hzero, hzero]
    push_cast
    linarith
  · obtain ⟨hframe, hscaled, hlt, hindex, -⟩ := applyHaircut_eq h (by omega)
    have hle := (Rounding.lt_floorDiv_add_one_mul (K := ℚ) (r.totalScaledLiquidity.val *
      r.liquidityIndex.atomics - loss.val * decimalFractional) (Nat.pos_of_ne_zero hscaled)).le
    rw [← hindex, Nat.cast_sub hlt.le] at hle
    push_cast at hle
    have htotal : r'.totalScaledLiquidity = r.totalScaledLiquidity := by rw [hframe]
    have hscale := mul_le_mul_of_nonneg_right hle ulp_pos.le
    rw [ReserveStateV1.claims, ReserveStateV1.claims, htotal, toRat_eq, toRat_eq]
    linear_combination hscale + (loss.val : ℚ) * ulp_mul_decimalFractional

/-! ## The moves -/

section Moves

variable {cash cash' : Nat} {r : ReserveStateV1}

/-- Cash that comes in beside the message. -/
theorem move_receive {paid : Nat} (hcash : cash' = cash + paid) :
    Move (booksOf cash r) (booksOf cash' r) := by
  have hbooks : booksOf cash' r = (booksOf cash r).receive paid := by
    refine Books.ext ?_ rfl rfl rfl rfl
    show (cash' : ℚ) = cash + paid
    exact_mod_cast hcash
  rw [hbooks]
  exact .receive _ (Nat.cast_nonneg _)

theorem move_lend {amount minted total : Uint128} (hcash : cash' = cash + amount.val)
    (hminted : minted.val = amount.val * decimalFractional / r.liquidityIndex.atomics)
    (htotal : total.val = r.totalScaledLiquidity.val + minted.val) :
    Move (booksOf cash r) (booksOf cash' { r with totalScaledLiquidity := total }) := by
  have hbooks : booksOf cash' { r with totalScaledLiquidity := total } =
      (booksOf cash r).deposit amount.val (minted.val * r.liquidityIndex.toRat) := by
    refine Books.ext ?_ rfl rfl ?_ rfl
    · show (cash' : ℚ) = cash + amount.val
      exact_mod_cast hcash
    · show (total.val : ℚ) * r.liquidityIndex.toRat =
        r.totalScaledLiquidity.val * r.liquidityIndex.toRat + minted.val * r.liquidityIndex.toRat
      rw [htotal]
      push_cast
      ring
  rw [hbooks]
  exact .deposit _ (scaled_toRat_le hminted)

theorem move_burn {burned paid total : Uint128} {out received : Nat}
    (hcash : cash' + out = cash + received) (hout : out ≤ paid.val)
    (hpaid : paid.val = burned.val * r.liquidityIndex.atomics / decimalFractional)
    (htotal : total.val + burned.val = r.totalScaledLiquidity.val) :
    Move (booksOf cash r) (booksOf cash' { r with totalScaledLiquidity := total }) := by
  have hbooks : booksOf cash' { r with totalScaledLiquidity := total } =
      ((booksOf cash r).receive received).redeem out
        (burned.val * r.liquidityIndex.toRat) := by
    refine Books.ext ?_ rfl rfl ?_ rfl
    · show (cash' : ℚ) = cash + received - out
      have hcast : (cash' : ℚ) + out = cash + received := by exact_mod_cast hcash
      linarith
    · show (total.val : ℚ) * r.liquidityIndex.toRat =
        r.totalScaledLiquidity.val * r.liquidityIndex.toRat - burned.val * r.liquidityIndex.toRat
      rw [← htotal]
      push_cast
      ring
  have hle : (out : ℚ) ≤ burned.val * r.liquidityIndex.toRat :=
    le_trans (by exact_mod_cast hout) (floored_le_toRat hpaid)
  rw [hbooks]
  exact .trans (.receive _ (Nat.cast_nonneg _)) (.redeem _ hle)

/-- A loan, which is the one message that may cost something. -/
theorem books_borrow {amount delta total : Uint128} {out : Nat}
    (hcash : cash' + out = cash) (hout : out ≤ amount.val)
    (hdelta : underlyingToScaledBorrowCeil amount r.borrowIndex = .ok delta)
    (htotal : total.val = r.totalScaledBorrow.val + delta.val) :
    (booksOf cash r).surplus - r.borrowIndex.toRat * ulp <
      (booksOf cash' { r with totalScaledBorrow := total }).surplus := by
  obtain ⟨hi, hdelta⟩ := underlyingToScaledBorrowCeil_eq hdelta
  have hbooks : booksOf cash' { r with totalScaledBorrow := total } =
      (booksOf cash r).lend out (delta.val * r.borrowIndex.toRat) := by
    refine Books.ext ?_ ?_ rfl rfl rfl
    · show (cash' : ℚ) = cash - out
      have hcast : (cash' : ℚ) + out = cash := by exact_mod_cast hcash
      linarith
    · show (total.val : ℚ) * r.borrowIndex.toRat =
        r.totalScaledBorrow.val * r.borrowIndex.toRat + delta.val * r.borrowIndex.toRat
      rw [htotal]
      push_cast
      ring
  have hlt : (out : ℚ) < delta.val * r.borrowIndex.toRat + r.borrowIndex.toRat * ulp :=
    lt_of_le_of_lt (by exact_mod_cast hout) (loan_lt_debt hi hdelta)
  rw [hbooks]
  exact Books.surplus_lend _ hlt

/-- A payment of which at least `applied` stays. -/
theorem move_repay {applied payoff scaled cancelled total : Uint128}
    (hcash : cash + applied.val ≤ cash')
    (hpayoff : payoff.val =
      (scaled.val * r.borrowIndex.atomics + (decimalFractional - 1)) / decimalFractional)
    (hcancelled : scaledRepayFor applied payoff scaled r.borrowIndex = .ok cancelled)
    (htotal : total.val + cancelled.val = r.totalScaledBorrow.val) :
    Move (booksOf cash r) (booksOf cash' { r with totalScaledBorrow := total }) := by
  have hbooks : booksOf cash' { r with totalScaledBorrow := total } =
      (booksOf cash r).repay (cash' - cash) (cancelled.val * r.borrowIndex.toRat) := by
    refine Books.ext ?_ ?_ rfl rfl rfl
    · show (cash' : ℚ) = cash + (cash' - cash)
      ring
    · show (total.val : ℚ) * r.borrowIndex.toRat =
        r.totalScaledBorrow.val * r.borrowIndex.toRat - cancelled.val * r.borrowIndex.toRat
      rw [← htotal]
      push_cast
      ring
  have hstays : (cash : ℚ) + applied.val ≤ cash' := by exact_mod_cast hcash
  have hle : (cancelled.val : ℚ) * r.borrowIndex.toRat ≤ cash' - cash := by
    have hvalue := repaid_toRat_le hpayoff hcancelled
    linarith
  rw [hbooks]
  exact .repay _ hle

/-- The debt that a write-off gives up, against the loss that it books. -/
theorem move_writeOff {c : ContractStateV1} {p : LiquidationPlan} {r' : ReserveStateV1}
    {total : Uint128} (hbad : p.badDebt = true)
    (hloss : badDebtLoss p.badDebt p.newScaledDebt r.borrowIndex = .ok p.badDebtUnderlying)
    (htotal : total.val + p.newScaledDebt.val = r.totalScaledBorrow.val)
    (h : (c.badDebtLossAllocation = .immediateLiquidityIndexHaircut ∧
        applyProRataLiquidityIndexHaircut { r with totalScaledBorrow := total }
          p.badDebtUnderlying = .ok r') ∨
      (c.badDebtLossAllocation = .deferredToDeficit ∧
        r'.deficitUnderlying.val = r.deficitUnderlying.val + p.badDebtUnderlying.val ∧
        r' = { r with totalScaledBorrow := total
                      deficitUnderlying := r'.deficitUnderlying })) :
    Move (booksOf cash r) (booksOf cash r') := by
  rw [badDebtLoss, hbad, if_pos rfl] at hloss
  have hlost := toRat_le_ceiled (scaledToUnderlyingBorrowCeil_eq hloss)
  have hdebt : (total.val : ℚ) * r.borrowIndex.toRat =
      r.totalScaledBorrow.val * r.borrowIndex.toRat -
        p.newScaledDebt.val * r.borrowIndex.toRat := by
    rw [← htotal]
    push_cast
    ring
  rcases h with ⟨-, hcut⟩ | ⟨-, hdeficit, hr'⟩
  · have hframe := applyHaircut_frame hcut
    have hclaims := haircut_claims_le hcut
    have hbooks : booksOf cash r' = (booksOf cash r).spread
        (p.newScaledDebt.val * r.borrowIndex.toRat) (r.claims - r'.claims) := by
      refine Books.ext rfl ?_ ?_ ?_ ?_
      · show (r'.totalScaledBorrow.val : ℚ) * r'.borrowIndex.toRat = _
        rw [hframe]
        exact hdebt
      · show (r'.deficitUnderlying.val : ℚ) = _
        rw [hframe]
        rfl
      · show r'.claims = r.claims - (r.claims - r'.claims)
        ring
      · show (r'.accruedReserve.val : ℚ) = _
        rw [hframe]
        rfl
    rw [hbooks]
    refine .spread _ ?_
    have hsame : ({ r with totalScaledBorrow := total } : ReserveStateV1).claims = r.claims := rfl
    rw [hsame] at hclaims
    linarith
  · have hbooks : booksOf cash r' = (booksOf cash r).defer
        (p.newScaledDebt.val * r.borrowIndex.toRat) p.badDebtUnderlying.val := by
      refine Books.ext rfl ?_ ?_ ?_ ?_
      · show (r'.totalScaledBorrow.val : ℚ) * r'.borrowIndex.toRat = _
        rw [hr']
        exact hdebt
      · show (r'.deficitUnderlying.val : ℚ) = r.deficitUnderlying.val + p.badDebtUnderlying.val
        exact_mod_cast hdeficit
      · show r'.claims = r.claims
        rw [hr']
        rfl
      · show (r'.accruedReserve.val : ℚ) = _
        rw [hr']
        rfl
    rw [hbooks]
    exact .defer _ hlost

/-- A liquidation: a repayment, and the write-off of the rest if there is one. -/
theorem move_liquidate {deps : Deps} {s : PoolStorage} {env : Env} {info : MessageInfo}
    {borrower : String} {seize : Amounts} {t : LiquidationTarget} {o : Ownership}
    {c : ContractStateV1} {p : LiquidationPlan} {r' : ReserveStateV1}
    (hcash : cash + p.actualRepay.val ≤ cash')
    (target : t.Valid deps s env info borrower seize) (plan : p.Valid o c info t seize)
    (booked : bookRepayment c t.reserve p = .ok r') :
    Move (booksOf cash t.reserve) (booksOf cash' r') := by
  have hrepay := plan.scaledRepay_eq
  obtain ⟨total, ⟨-, htotal, hr'⟩ | ⟨hbad, htotal, hloss⟩⟩ := bookRepayment_spec booked
  · rw [hr']
    exact move_repay hcash target.payoff_eq hrepay htotal
  · have hfits : total.val + p.newScaledDebt.val < 2 ^ 128 := by
      have hlt := t.reserve.totalScaledBorrow.isLt
      omega
    let rest : Uint128 := ⟨total.val + p.newScaledDebt.val, hfits⟩
    have hrest : rest.val + p.scaledRepay.val = t.reserve.totalScaledBorrow.val := by
      show total.val + p.newScaledDebt.val + p.scaledRepay.val = _
      omega
    exact .trans (move_repay hcash target.payoff_eq hrepay hrest)
      (move_writeOff hbad plan.loss rfl hloss)

theorem move_cover {applied deficit : Uint128} (hcash : cash + applied.val ≤ cash')
    (hdeficit : deficit.val + applied.val = r.deficitUnderlying.val) :
    Move (booksOf cash r) (booksOf cash' { r with deficitUnderlying := deficit }) := by
  have hbooks : booksOf cash' { r with deficitUnderlying := deficit } =
      (booksOf cash r).cover (cash' - cash) applied.val := by
    refine Books.ext ?_ rfl ?_ rfl rfl
    · show (cash' : ℚ) = cash + (cash' - cash)
      ring
    · show (deficit.val : ℚ) = r.deficitUnderlying.val - applied.val
      rw [← hdeficit]
      push_cast
      ring
  have hstays : (cash : ℚ) + applied.val ≤ cash' := by exact_mod_cast hcash
  rw [hbooks]
  exact .cover _ (by linarith)

theorem move_offset {deficit accruedReserve : Uint128} {clear : Nat}
    (hdeficit : deficit.val + clear = r.deficitUnderlying.val)
    (hreserve : accruedReserve.val + clear = r.accruedReserve.val) :
    Move (booksOf cash r)
      (booksOf cash { r with deficitUnderlying := deficit, accruedReserve }) := by
  have hbooks : booksOf cash { r with deficitUnderlying := deficit, accruedReserve } =
      (booksOf cash r).offset clear := by
    refine Books.ext rfl rfl ?_ rfl ?_
    · show (deficit.val : ℚ) = r.deficitUnderlying.val - clear
      rw [← hdeficit]
      push_cast
      ring
    · show (accruedReserve.val : ℚ) = r.accruedReserve.val - clear
      rw [← hreserve]
      push_cast
      ring
  rw [hbooks]
  exact .offset _ _

theorem move_socialize {amount deficit : Uint128} {cut : ReserveStateV1}
    (hcut : applyProRataLiquidityIndexHaircut r amount = .ok cut)
    (hdeficit : deficit.val + amount.val = cut.deficitUnderlying.val) :
    Move (booksOf cash r) (booksOf cash { cut with deficitUnderlying := deficit }) := by
  have hframe := applyHaircut_frame hcut
  have hclaims := haircut_claims_le hcut
  have hbooks : booksOf cash { cut with deficitUnderlying := deficit } =
      (booksOf cash r).socialize amount.val (r.claims - cut.claims) := by
    refine Books.ext rfl ?_ ?_ ?_ ?_
    · show (cut.totalScaledBorrow.val : ℚ) * cut.borrowIndex.toRat = _
      rw [hframe]
      rfl
    · show (deficit.val : ℚ) = r.deficitUnderlying.val - amount.val
      have hsame : cut.deficitUnderlying = r.deficitUnderlying := by rw [hframe]
      rw [← hsame, ← hdeficit]
      push_cast
      ring
    · show cut.claims = r.claims - (r.claims - cut.claims)
      ring
    · show (cut.accruedReserve.val : ℚ) = _
      rw [hframe]
      rfl
  rw [hbooks]
  exact .socialize _ (by linarith)

theorem move_payReserve {pay left : Uint128} {out : Nat} (hcash : cash' + out = cash)
    (hout : out ≤ pay.val) (hleft : left.val + pay.val ≤ r.accruedReserve.val) :
    Move (booksOf cash r) (booksOf cash' { r with accruedReserve := left }) := by
  have hbooks : booksOf cash' { r with accruedReserve := left } =
      (booksOf cash r).payReserve out (r.accruedReserve.val - left.val) := by
    refine Books.ext ?_ rfl rfl rfl ?_
    · show (cash' : ℚ) = cash - out
      have hcast : (cash' : ℚ) + out = cash := by exact_mod_cast hcash
      linarith
    · show (left.val : ℚ) = r.accruedReserve.val - (r.accruedReserve.val - left.val)
      ring
  have hle : (out : ℚ) + left.val ≤ r.accruedReserve.val := by
    exact_mod_cast (by omega : out + left.val ≤ r.accruedReserve.val)
  rw [hbooks]
  exact .payReserve _ (by linarith)

end Moves

end DemocratizedPrime
