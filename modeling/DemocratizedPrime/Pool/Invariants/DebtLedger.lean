import DemocratizedPrime.Pool.Steps

/-!
# The ledger of debts

`total_scaled_borrow` and the borrowers' scaled debts are written by different
lines of four messages.  `DebtLedger` says that they agree, and that no borrower
is stored with a debt of zero.

A message changes at most one borrower's debt.  `DebtLedger.set` is the rule for
that: the total must change by as much as the debt does.  The other messages keep
both stores as they are, and `DebtLedger.congr` covers them.
-/

namespace DemocratizedPrime

open Result TreeMap Transitions

/-- The total is the sum of the stored debts, and no stored debt is zero. -/
structure DebtLedger (s : PoolStorage) : Prop where
  total : sumBy Uint.val s.scaledBorrow = s.reserve.totalScaledBorrow.val
  noZero : NoNull Uint.isZero s.scaledBorrow

namespace DebtLedger

variable {s s' : PoolStorage}

theorem fresh {t : Timestamp} (h : FreshPool t s) : DebtLedger s := by
  refine ⟨?_, ?_⟩
  · rw [h.scaledBorrow, h.reserve, sumBy_empty]
    rfl
  · rw [h.scaledBorrow]
    exact noNull_empty _

/-- A message that writes neither store keeps the ledger. -/
theorem congr (h : DebtLedger s) (hborrow : s'.scaledBorrow = s.scaledBorrow)
    (htotal : s'.reserve.totalScaledBorrow = s.reserve.totalScaledBorrow) : DebtLedger s' :=
  ⟨by rw [hborrow, htotal]; exact h.total, by rw [hborrow]; exact h.noZero⟩

/-- A message that saves one debt keeps the ledger if the total moves along. -/
theorem set {b : Addr} {d : Uint128} (h : DebtLedger s)
    (hborrow : s'.scaledBorrow = (s.setScaledBorrow b d).scaledBorrow)
    (htotal : s'.reserve.totalScaledBorrow.val + (s.getScaledBorrow b).val =
      s.reserve.totalScaledBorrow.val + d.val) : DebtLedger s' := by
  refine ⟨?_, ?_⟩
  · have hsum := sumBy_putUnless (f := Uint.val)
      (fun v (hv : Uint.isZero v = true) => Uint.isZero_iff.mp hv) s.scaledBorrow b d
    have hold : valueAt Uint.val s.scaledBorrow b = (s.getScaledBorrow b).val := by
      unfold valueAt PoolStorage.getScaledBorrow
      cases s.scaledBorrow[b]? <;> simp
    have htot := h.total
    rw [hborrow]
    simp only [PoolStorage.setScaledBorrow]
    omega
  · rw [hborrow]
    exact h.noZero.putUnless b d

/-- One debt is at most the total of all debts. -/
theorem getScaledBorrow_le (h : DebtLedger s) (b : Addr) :
    (s.getScaledBorrow b).val ≤ s.reserve.totalScaledBorrow.val := by
  have hle := valueAt_le_sumBy Uint.val s.scaledBorrow b
  rw [h.total] at hle
  unfold valueAt at hle
  unfold PoolStorage.getScaledBorrow
  cases hb : s.scaledBorrow[b]? with
  | none => simp
  | some d =>
    rw [hb] at hle
    exact hle

/-- Every step keeps the ledger. -/
theorem step {e : Event} (h : DebtLedger s) (hstep : PoolStep s e s') : DebtLedger s' := by
  cases hstep.effect with
  | neutral _ _ change => exact h.congr change.scaledBorrow (by rw [change.reserve])
  | updateSupportedCollateral => exact h.congr rfl rfl
  | updateContractConfig => exact h.congr rfl rfl
  | updateRateParams _ _ _ accrued => exact h.congr rfl accrued.totalScaledBorrow
  | lend _ _ _ accrued => exact h.congr rfl accrued.totalScaledBorrow
  | burn _ _ accrued => exact h.congr rfl accrued.totalScaledBorrow
  | borrow _ _ _ accrued debt_eq total_eq =>
    obtain ⟨-, hnew, -⟩ := debtAfterBorrow_eq debt_eq
    rw [accrued.totalScaledBorrow] at total_eq
    exact h.set rfl (by dsimp only [PoolStorage.setReserveStateV1_reserve]; omega)
  | repay _ _ _ accrued _ _ left_eq total_eq =>
    rw [accrued.totalScaledBorrow] at total_eq
    exact h.set rfl (by dsimp only [PoolStorage.setReserveStateV1_reserve]; omega)
  | addCollateral => exact h.congr rfl rfl
  | removeCollateral _ _ _ accrued => exact h.congr rfl accrued.totalScaledBorrow
  | @liquidate borrower seize outgoing totals t p r' offers _ target plan booked =>
    have hdebt := plan.newDebt_eq
    rw [target.scaledDebt_eq] at hdebt
    obtain ⟨-, htotal⟩ := bookRepayment_frame booked
    rw [target.accrued.totalScaledBorrow] at htotal
    refine h.set (b := t.borrower) (d := if p.badDebt then 0 else p.newScaledDebt) rfl ?_
    change r'.totalScaledBorrow.val + _ = _
    -- A write-off cancels what the repayment leaves, so the debt is gone.
    cases hbad : p.badDebt with
    | false =>
      simp only [hbad, Bool.false_eq_true, if_false] at htotal ⊢
      omega
    | true =>
      simp only [hbad, if_true, Uint.val_zero] at htotal ⊢
      omega
  | eliminateFromReserve _ _ _ accrued => exact h.congr rfl accrued.totalScaledBorrow
  | eliminateFromBank _ _ _ accrued => exact h.congr rfl accrued.totalScaledBorrow
  | socializeDeficit _ _ _ accrued _ haircut =>
    refine h.congr rfl ?_
    rw [PoolStorage.setReserveStateV1_reserve]
    dsimp only
    rw [applyHaircut_frame haircut]
    exact accrued.totalScaledBorrow
  | withdrawReserve _ _ _ accrued => exact h.congr rfl accrued.totalScaledBorrow

end DebtLedger

/-- The ledger of debts holds in every reachable state. -/
theorem Reachable.debtLedger {s : PoolStorage} (h : Reachable s) : DebtLedger s :=
  h.invariant (fun _ _ => DebtLedger.fresh) (fun _ _ _ => DebtLedger.step)

end DemocratizedPrime
