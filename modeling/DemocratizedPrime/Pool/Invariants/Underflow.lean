import DemocratizedPrime.Pool.Errors
import DemocratizedPrime.Pool.Invariants.DebtLedger
import DemocratizedPrime.Pool.Invariants.CollateralLedger

/-!
# No total underflows

The lines that take an amount out of a total guard the subtraction, and a call
whose guard fails ends with one of `ledgerUnderflows`.  The two ledgers rule that
out: what a message takes out of a total belongs to one borrower, and no borrower
has more than the total.

The lemmas follow the code line by line, with `Pool.Errors` for the lines that
cannot raise such an error at all.  The theorems about runs are at the end.
-/

namespace DemocratizedPrime

open Result TreeMap Transitions

/-! ## Debts -/

/-- A repayment cancels at most the borrower's debt. -/
theorem noUnderflow_repay {s : PoolStorage} (h : DebtLedger s) (env : Env) (info : MessageInfo) :
    NoUnderflow (repay s env info) := by
  have hrepay : ∀ a payoff debt bi, NoUnderflow (scaledRepayFor a payoff debt bi) := by
    simp [scaledRepayFor]
  have hrefund : ∀ res cf a used, NoUnderflow (refundExcess res env info s.contract cf a used) := by
    simp [refundExcess]
  have hown : NotUnderflow
      (illegalState "underflow: borrower scaled debt (scaled_debt - scaled_repay)") := by
    simp [ledgerUnderflows]
  simp only [repay, allErrors_bind, allErrors_ensure, allErrors_okOr, allErrors_pure, hrepay,
    hrefund, hown, noUnderflow_validateSingleCoinDenom, arithmetic_updateReserveIndexes,
    arithmetic_scaledToUnderlyingBorrowCeil, arithmetic_attachRates,
    notUnderflow_illegalArgument, updateReserveIndexes_eq_ok, okOr_eq_ok,
    Uint.checkedSub_eq_some, Uint.checkedSub_eq_none, implies_true, and_true, true_and]
  rintro amount - ⟨store, r⟩ ⟨hr, hstore⟩ - - payoff - cancelled - - - left hleft htotal
  have hle := h.getScaledBorrow_le info.sender
  rw [hr.totalScaledBorrow] at htotal
  rw [hstore] at hleft
  change left.val + cancelled.val = (s.getScaledBorrow info.sender).val at hleft
  omega

/-- A liquidation cancels at most the borrower's debt. -/
theorem noUnderflow_bookRepayment {c : ContractStateV1} {r : ReserveStateV1}
    {p : LiquidationPlan} {debt : Uint128}
    (hdebt : p.newScaledDebt.val + p.scaledRepay.val = debt.val)
    (hle : debt.val ≤ r.totalScaledBorrow.val) : NoUnderflow (bookRepayment c r p) := by
  have hfull : ∀ sum, p.scaledRepay.checkedAdd p.newScaledDebt = some sum →
      r.totalScaledBorrow.checkedSub sum ≠ none := by
    intro sum hsum hnone
    rw [Uint.checkedAdd_eq_some] at hsum
    rw [Uint.checkedSub_eq_none] at hnone
    omega
  have hpart : r.totalScaledBorrow.checkedSub p.scaledRepay ≠ none := by
    rw [ne_eq, Uint.checkedSub_eq_none]
    omega
  unfold bookRepayment
  simp only [allErrors_ite, allErrors_bind, allErrors_okOr, allErrors_pure, okOr_eq_ok]
  refine ⟨fun _ => ⟨by simp [ledgerUnderflows], fun sum hsum => ⟨fun hnone =>
    absurd hnone (hfull sum hsum), fun total _ => ?_⟩⟩, fun _ => ⟨fun hnone =>
    absurd hnone hpart, fun _ _ => trivial⟩⟩
  split <;> simp [ledgerUnderflows]

/-! ## Collateral -/

/-- Where a list of entries fits into the totals, its first entry does. -/
theorem checkedSub_first {e : String × Uint128} {rest : List (String × Uint128)}
    {totals : Amounts}
    (h : coinsOf e.1 ((e :: rest).map entryCoin) ≤ (amountOf totals e.1).val) :
    (amountOf totals e.1).checkedSub e.2 ≠ none := by
  simp only [List.map_cons, coinsOf_cons, entryCoin, if_true] at h
  rw [ne_eq, Uint.checkedSub_eq_none]
  omega

/-- A loop that takes entries out of the totals, which hold enough of each. -/
theorem noUnderflow_subtractTotals {l : List (String × Uint128)} {s : PoolStorage}
    (h : ∀ a, coinsOf a (l.map entryCoin) ≤ (amountOf s.totalCollateralByAsset a).val) :
    NoUnderflow (l.foldlM subtractTotalCollateralEntry s) := by
  induction l generalizing s with
  | nil => simp
  | cons e rest ih =>
    rw [NoUnderflow, List.foldlM_cons, allErrors_bind]
    constructor
    · have hsub := checkedSub_first (h e.1)
      simp [subtractTotalCollateralEntry, PoolStorage.subtractTotalCollateral,
        PoolStorage.getTotalCollateralByAsset, hsub]
    · intro s' hs'
      have hone : [e].foldlM subtractTotalCollateralEntry s = .ok s' := by
        rw [List.foldlM_cons, hs']
        rfl
      refine ih fun a => ?_
      have htaken := (subtractTotalCollateralEntry_foldlM hone).2.amounts a
      have ha := h a
      rw [List.map_cons, coinsOf_cons] at ha
      simp only [List.map_cons, List.map_nil, coinsOf_cons, coinsOf_nil] at htaken
      omega

/-- The loop of a liquidation, likewise. -/
theorem noUnderflow_sendOut {l : List (String × Uint128)} {out : Amounts} {s : PoolStorage}
    (h : ∀ a, coinsOf a (l.map entryCoin) ≤ (amountOf s.totalCollateralByAsset a).val) :
    NoUnderflow (l.foldlM sendOutEntry (out, s)) := by
  induction l generalizing out s with
  | nil => simp
  | cons e rest ih =>
    rw [NoUnderflow, List.foldlM_cons, allErrors_bind]
    constructor
    · have hsub := checkedSub_first (h e.1)
      simp [sendOutEntry, PoolStorage.subtractTotalCollateral,
        PoolStorage.getTotalCollateralByAsset, hsub, ledgerUnderflows]
    · rintro ⟨out', s'⟩ hs'
      have hone : [e].foldlM sendOutEntry (out, s) = .ok (out', s') := by
        rw [List.foldlM_cons, hs']
        rfl
      refine ih fun a => ?_
      have htaken := (sendOutEntry_foldlM hone).2.1.amounts a
      have ha := h a
      rw [List.map_cons, coinsOf_cons] at ha
      simp only [List.map_cons, List.map_nil, coinsOf_cons, coinsOf_nil] at htaken
      omega

/-- A removal takes out at most what the borrower holds. -/
theorem noUnderflow_removeCollateral {s : PoolStorage} (h : CollateralLedger s) (deps : Deps)
    (env : Env) (info : MessageInfo) (toRemove : Amounts) :
    NoUnderflow (removeCollateral deps s env info toRemove) := by
  have hentry : ∀ amounts entry, NoUnderflow (removeCollateralEntry s.contract amounts entry) := by
    intro amounts entry
    have htake : NoUnderflow (takeAmount amounts entry.1 entry.2
        (illegalState "underflow: collateral remaining (cur - remove) for asset")) :=
      noUnderflow_takeAmount (by simp [ledgerUnderflows])
    simp [removeCollateralEntry, htake]
  have hcheck : ∀ held debt,
      NoUnderflow (checkHealthAfterRemoval deps env s.contract held debt) := by
    simp [checkHealthAfterRemoval]
  simp only [removeCollateral, allErrors_bind, AllErrors.foldlM hentry, hcheck,
    arithmetic_updateReserveIndexes, arithmetic_scaledToUnderlyingBorrow,
    noUnderflow_validateBorrowerAttrs, noUnderflow_addCommitMessage, arithmetic_attachRates,
    allErrors_ensure, allErrors_pure, noFundsAccepted, notUnderflow_invalidFunds,
    notUnderflow_illegalArgument, updateReserveIndexes_eq_ok, implies_true, and_true, true_and]
  rintro - - - - - - held hheld ⟨store, r⟩ ⟨-, hstore⟩ - - - -
  have htaken : Taken (s.getBorrowerCollateral info.sender) (toRemove.toList.map entryCoin) held :=
    Taken.foldlM (fun _ _ _ he => (removeCollateralEntry_spec he).2) hheld
  refine noUnderflow_subtractTotals fun a => ?_
  have h1 := htaken.amounts a
  have h2 := h.held_le_total info.sender a
  unfold PoolStorage.getTotalCollateralByAsset at h2
  rw [hstore]
  change _ ≤ (amountOf s.totalCollateralByAsset a).val
  omega

/-- A liquidation takes out at most what the borrower holds and owes. -/
theorem noUnderflow_liquidate {s : PoolStorage} (hdebt : DebtLedger s) (hheld : CollateralLedger s)
    (deps : Deps) (env : Env) (info : MessageInfo) (borrower : String) (seize : Amounts) :
    NoUnderflow (liquidate deps s env info borrower seize) := by
  simp only [liquidate, allErrors_bind, noUnderflow_liquidationTarget, noUnderflow_planLiquidation,
    true_and]
  intro t ht p hp
  have htarget := liquidationTarget_spec ht
  have hplan := planLiquidation_spec hp
  have hbook : NoUnderflow (bookRepayment s.contract t.reserve p) := by
    refine noUnderflow_bookRepayment hplan.newDebt_eq ?_
    rw [htarget.scaledDebt_eq, htarget.accrued.totalScaledBorrow]
    exact hdebt.getScaledBorrow_le t.borrower
  simp only [settleLiquidation, PoolStorage.setReserveStateV1_contract, allErrors_bind, hbook,
    arithmetic_attachRates, allErrors_pure, implies_true, and_true, true_and]
  intro r' _
  refine noUnderflow_sendOut fun a => ?_
  have h1 := hplan.seizedCoins_eq a
  have h2 := hheld.held_le_total t.borrower a
  rw [htarget.collateral_eq] at h1
  unfold PoolStorage.getTotalCollateralByAsset at h2
  change coinsOf a (seizedCoins p seize) ≤ (amountOf s.totalCollateralByAsset a).val
  omega

end DemocratizedPrime
