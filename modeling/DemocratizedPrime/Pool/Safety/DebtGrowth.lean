import DemocratizedPrime.Lib.Growth
import DemocratizedPrime.Pool.AccrualDust
import DemocratizedPrime.Pool.Books
import DemocratizedPrime.Pool.Curve
import DemocratizedPrime.Pool.Invariants.ConfigSafety
import DemocratizedPrime.Pool.Safety.Isolation

/-!
# How fast debts grow

An accrual charges simple interest for the seconds since the last one, and adds it to the
index.  Whoever sends messages often makes the interest compound more often.

All the same no debt outgrows continuous compounding at the highest rate of the curve,
`AccruedTo.borrowIndex_growth` for one accrual and `borrowIndex_growth` along a run.  What a
borrower owes follows the index, less what is repaid and seized.
-/

namespace DemocratizedPrime

open Result Transitions Decimal256 Growth

section

variable {s s' : PoolStorage} {e : Event} {t : Timestamp} {r : ReserveStateV1} {M : ℚ}

/-- The rate at which interest can compound, for a second. -/
noncomputable def perSecond (M : ℚ) : ℝ := M / secondsPerYear

/-- The second of a time stamp. -/
def ReserveStateV1.second (r : ReserveStateV1) : ℝ := r.lastUpdatedAt.seconds

/-- The borrow index, exactly. -/
noncomputable def ReserveStateV1.debtIndex (r : ReserveStateV1) : ℝ := (r.borrowIndex.toRat : ℝ)

theorem ReserveStateV1.debtIndex_nonneg (r : ReserveStateV1) : 0 ≤ r.debtIndex :=
  Rat.cast_nonneg.mpr (toRat_nonneg _)

/-! ## One accrual -/

theorem borrowerRate_le {p : RateParamsV1} {u br : Decimal256} (hp : p.Valid)
    (h : borrowerRateFromUtilization p u = .ok br) (hmax : p.maxRate.toRat ≤ M) :
    br.toRat ≤ M := by
  refine le_trans ?_ hmax
  rw [toRat_le, Decimal256.le_def, borrowerRate_eq hp h]
  exact p.curve_le_maxRate hp _

/-- One accrual adds simple interest, at a rate of the curve. -/
theorem AccruedTo.borrowIndex_growth (h : AccruedTo s t r) (hp : s.contract.rateParams.Valid)
    (hmax : s.contract.rateParams.maxRate.toRat ≤ M) :
    GrowsWithin (perSecond M) s.reserve.second s.reserve.debtIndex r.second r.debtIndex := by
  by_cases he : timeElapsedSeconds s.reserve.lastUpdatedAt t = 0
  · rw [h.sameSecond he]
    exact .refl _ _ _
  · have hr := h.charged he
    simp only [accrueInterest, bind_eq_ok, pure_eq_ok] at hr
    obtain ⟨_, -, u, -, br, hbr, _, -, _, -, bf, hbf, _, -, bi, hbi, _, -, rfl⟩ := hr
    have hrate := borrowerRate_le hp hbr hmax
    obtain ⟨tf, htf⟩ : ∃ tf, fromRatio (timeElapsedSeconds s.reserve.lastUpdatedAt t)
        secondsPerYear = .ok tf := by
      unfold indexGrowthFactor at hbf
      rw [if_neg he, bind_eq_ok] at hbf
      exact ⟨_, hbf.choose_spec.1⟩
    have hgrown := index_growth hbi hbf he htf
    have hdust := growthDust_nonneg s.reserve.borrowIndex br tf bf
    have htime := toRat_fromRatio_le htf
    have hindex := toRat_nonneg s.reserve.borrowIndex
    have hM : 0 ≤ M := le_trans (toRat_nonneg br) hrate
    have hinterest : br.toRat * tf.toRat ≤
        M * (timeElapsedSeconds s.reserve.lastUpdatedAt t / (secondsPerYear : ℚ)) :=
      mul_le_mul hrate htime (toRat_nonneg tf) hM
    have hsimple : bi.toRat ≤ s.reserve.borrowIndex.toRat * (1 + M *
        (timeElapsedSeconds s.reserve.lastUpdatedAt t / (secondsPerYear : ℚ))) := by
      have hmul := mul_le_mul_of_nonneg_left hinterest hindex
      linarith
    -- The elapsed seconds are those between the two stamps.
    have hseconds : (timeElapsedSeconds s.reserve.lastUpdatedAt t : ℝ) =
        t.seconds - s.reserve.lastUpdatedAt.seconds := by
      unfold timeElapsedSeconds at he ⊢
      exact Nat.cast_sub (by omega)
    refine .ofSimple s.reserve.debtIndex_nonneg ?_
    show (bi.toRat : ℝ) ≤ (s.reserve.borrowIndex.toRat : ℝ) *
      (1 + perSecond M * (t.seconds - s.reserve.lastUpdatedAt.seconds))
    rw [← hseconds]
    have hcast : (bi.toRat : ℝ) ≤ ((s.reserve.borrowIndex.toRat * (1 + M *
        (timeElapsedSeconds s.reserve.lastUpdatedAt t / (secondsPerYear : ℚ))) : ℚ) : ℝ) :=
      Rat.cast_le.mpr hsimple
    refine le_trans hcast (le_of_eq ?_)
    unfold perSecond
    push_cast
    ring

/-! ## Runs -/

/-- A step charges the rate of the parameters that it finds. -/
theorem PoolStep.borrowIndex_growth (h : PoolStep s e s') (hp : s.contract.rateParams.Valid)
    (hmax : s.contract.rateParams.maxRate.toRat ≤ M) :
    GrowsWithin (perSecond M) s.reserve.second s.reserve.debtIndex s'.reserve.second
      s'.reserve.debtIndex := by
  rcases h.accrual with ⟨-, r, hr, hindex, hlast, -⟩ | ⟨-, hreserve, -⟩
  · unfold ReserveStateV1.second ReserveStateV1.debtIndex
    rw [hindex, hlast]
    exact AccruedTo.borrowIndex_growth hr hp hmax
  · rw [hreserve]
    exact .refl _ _ _

/-- Along a run the index grows within the highest of the rates. -/
theorem borrowIndex_growth {ts : List (Transition PoolStorage Event)} (hreach : Reachable s)
    (run : Run PoolStep s ts s')
    (rates : ∀ x ∈ ts, x.pre.contract.rateParams.maxRate.toRat ≤ M) :
    GrowsWithin (perSecond M) s.reserve.second s.reserve.debtIndex s'.reserve.second
      s'.reserve.debtIndex := by
  have hend := run.invariant_of_transitions
    (I := fun y => Reachable y ∧ GrowsWithin (perSecond M) s.reserve.second s.reserve.debtIndex
      y.reserve.second y.reserve.debtIndex)
    (P := fun x => x.pre.contract.rateParams.maxRate.toRat ≤ M)
    (fun _ _ _ ⟨hy, hgrown⟩ hmax hstep => by
      have hp := RateParamsV1.validate_spec hy.rateParams_valid
      exact ⟨hy.step hstep, hgrown.trans (hstep.borrowIndex_growth hp hmax)⟩)
    rates ⟨hreach, .refl _ _ _⟩
  exact hend.2

/-- A borrower who takes no loan owes no more scaled units. -/
theorem scaledBorrow_le {ts : List (Transition PoolStorage Event)} {b : Addr}
    (run : Run PoolStep s ts s')
    (idle : ∀ x ∈ ts, x.label.info.sender = b → ∀ amount, x.label.msg ≠ .borrow amount) :
    (s'.getScaledBorrow b).val ≤ (s.getScaledBorrow b).val := by
  refine run.invariant_of_transitions
    (I := fun y => (y.getScaledBorrow b).val ≤ (s.getScaledBorrow b).val)
    (P := fun x => x.label.info.sender = b → ∀ amount, x.label.msg ≠ .borrow amount)
    (fun y e y' hle hidle hstep => ?_) idle (Nat.le_refl _)
  refine Nat.le_trans ?_ hle
  by_contra hup
  obtain ⟨hsender, amount, hmsg⟩ := hstep.debtUp (Nat.lt_of_not_le hup)
  exact hidle hsender amount hmsg

/-- In a reachable state no more than the whole debt is charged for a year. -/
theorem Reachable.maxRate_le_one (h : Reachable s) : s.contract.rateParams.maxRate.toRat ≤ 1 := by
  rw [← toRat_one, toRat_le]
  exact (RateParamsV1.validate_spec h.rateParams_valid).max_le_one

/-- What continuous compounding at a yearly rate makes of a debt, and a unit for the rounding. -/
noncomputable def compounded (M : ℚ) (owed : Uint128) (seconds : ℝ) : ℝ :=
  owed.val * Real.exp (perSecond M * seconds) + 1

theorem payoff_le_compounded {ts : List (Transition PoolStorage Event)} {b : Addr}
    {owed owes : Uint128} (hreach : Reachable s) (run : Run PoolStep s ts s')
    (idle : ∀ x ∈ ts, x.label.info.sender = b → ∀ amount, x.label.msg ≠ .borrow amount)
    (hnow : s'.reserve.lastUpdatedAt.seconds ≤ t.seconds) (accrued : AccruedTo s' t r)
    (before : scaledToUnderlyingBorrowCeil (s.getScaledBorrow b) s.reserve.borrowIndex = .ok owed)
    (after : scaledToUnderlyingBorrowCeil (s'.getScaledBorrow b) r.borrowIndex = .ok owes)
    (rates : ∀ x ∈ ts, x.pre.contract.rateParams.maxRate.toRat ≤ M)
    (rate : s'.contract.rateParams.maxRate.toRat ≤ M) :
    (owes.val : ℝ) ≤ compounded M owed (t.seconds - s.reserve.lastUpdatedAt.seconds) := by
  have hreach' : Reachable s' := run.invariant (fun _ _ _ => Reachable.step) hreach
  have hrun := borrowIndex_growth hreach run rates
  have hlast := AccruedTo.borrowIndex_growth accrued
    (RateParamsV1.validate_spec hreach'.rateParams_valid) rate
  have hsecond : r.second = t.seconds := by
    unfold ReserveStateV1.second
    rw [accrued.seconds hnow]
  have hscaled : ((s'.getScaledBorrow b).val : ℝ) ≤ (s.getScaledBorrow b).val :=
    Nat.cast_le.mpr (scaledBorrow_le run idle)
  have hgrown := (hrun.trans hlast).mul_left (Nat.cast_nonneg _) hscaled
    s.reserve.debtIndex_nonneg
  have howed : ((s.getScaledBorrow b).val : ℝ) * s.reserve.debtIndex ≤ owed.val := by
    unfold ReserveStateV1.debtIndex
    exact_mod_cast toRat_le_ceiled (scaledToUnderlyingBorrowCeil_eq before)
  have howes : (owes.val : ℝ) < (s'.getScaledBorrow b).val * r.debtIndex + 1 := by
    unfold ReserveStateV1.debtIndex
    exact_mod_cast ceiled_lt_toRat (scaledToUnderlyingBorrowCeil_eq after)
  unfold GrowsWithin at hgrown
  rw [hsecond] at hgrown
  calc (owes.val : ℝ) ≤ (s'.getScaledBorrow b).val * r.debtIndex + 1 := howes.le
    _ ≤ (s.getScaledBorrow b).val * s.reserve.debtIndex *
          Real.exp (perSecond M * (t.seconds - s.reserve.second)) + 1 := by linarith
    _ ≤ compounded M owed (t.seconds - s.reserve.lastUpdatedAt.seconds) :=
        add_le_add_left (mul_le_mul_of_nonneg_right howed (Real.exp_pos _).le) 1

/-- Whatever anyone does, and however often interest is charged, a borrower who takes no new loan
owes at most what continuous compounding makes of the debt: at the rate one in any case, and at
`M` where no curve in force went higher. -/
theorem debt_growth_bounded {ts : List (Transition PoolStorage Event)} {b : Addr}
    {owed owes : Uint128} (hreach : Reachable s) (run : Run PoolStep s ts s')
    (idle : ∀ x ∈ ts, x.label.info.sender = b → ∀ amount, x.label.msg ≠ .borrow amount)
    (hnow : s'.reserve.lastUpdatedAt.seconds ≤ t.seconds) (accrued : AccruedTo s' t r)
    (before : scaledToUnderlyingBorrowCeil (s.getScaledBorrow b) s.reserve.borrowIndex = .ok owed)
    (after : scaledToUnderlyingBorrowCeil (s'.getScaledBorrow b) r.borrowIndex = .ok owes) :
    (owes.val : ℝ) ≤ compounded 1 owed (t.seconds - s.reserve.lastUpdatedAt.seconds) ∧
      ∀ M : ℚ, (∀ x ∈ ts, x.pre.contract.rateParams.maxRate.toRat ≤ M) →
        s'.contract.rateParams.maxRate.toRat ≤ M →
        (owes.val : ℝ) ≤ compounded M owed (t.seconds - s.reserve.lastUpdatedAt.seconds) := by
  have hreach' : Reachable s' := run.invariant (fun _ _ _ => Reachable.step) hreach
  have hpre := run.invariant_pre (I := Reachable) (fun _ _ _ => Reachable.step) hreach
  refine ⟨?_, fun M rates rate => ?_⟩
  · exact payoff_le_compounded hreach run idle hnow accrued before after
      (fun x hx => (hpre x hx).maxRate_le_one) hreach'.maxRate_le_one
  · exact payoff_le_compounded hreach run idle hnow accrued before after rates rate

end

namespace Demo

/-- The curve of this pool ends at a fifth. -/
def gentleMsg : InstantiateMsg :=
  { msg with rateParams := { msg.rateParams with maxRate := percent 20 } }

/-- Carol lends after a quarter of the year, and again after the half. -/
def quarters : List Call :=
  [⟨deps 10, env 7884000, ⟨"carol", [⟨"usd", 200⟩]⟩, .lend⟩,
    ⟨deps 10, env 15768000, ⟨"carol", [⟨"usd", 200⟩]⟩, .lend⟩]

/-- After a year. -/
def yearEnd : Timestamp := (env 31536000).blockTime

/-- The calls of the quarters are not Alice's, at a rate of twenty percent, and her debt grows. -/
def growthCheck (s : PoolStorage) : Bool :=
  match replayCalls s quarters with
  | .ok (ts, s') =>
    ts.all (fun x => decide (x.label.info.sender ≠ "alice") &&
        decide (x.pre.contract.rateParams.maxRate = percent 20)) &&
      decide (s'.contract.rateParams.maxRate = percent 20) &&
      decide (s'.reserve.lastUpdatedAt.seconds ≤ yearEnd.seconds) &&
      decide (scaledToUnderlyingBorrowCeil (s.getScaledBorrow "alice") s.reserve.borrowIndex =
        .ok 500) &&
      match computeEffectiveReserve s' yearEnd s'.contract.rateParams with
      | .ok r => decide (scaledToUnderlyingBorrowCeil (s'.getScaledBorrow "alice") r.borrowIndex =
          .ok 539)
      | .error _ => false
  | .error _ => false

theorem growth_ok :
    replayCheck (deps 10) (env 0) ⟨"owner", []⟩ gentleMsg opening growthCheck = true := by
  decide +kernel

theorem percent_toRat_le : (percent 20).toRat ≤ 1 / 5 := by
  norm_num [percent, toRat]

end Demo

/-- Alice borrowed 500, and after a year she owes 539, less than the 611 that compounding at a
fifth would make of it. -/
theorem debt_growth_bounded_year :
    ∃ s ts s' r, Reachable s ∧ Run PoolStep s ts s' ∧ AccruedTo s' Demo.yearEnd r ∧
      scaledToUnderlyingBorrowCeil (s.getScaledBorrow "alice") s.reserve.borrowIndex = .ok 500 ∧
      scaledToUnderlyingBorrowCeil (s'.getScaledBorrow "alice") r.borrowIndex = .ok 539 ∧
      ((539 : Uint128).val : ℝ) ≤ compounded (1 / 5) 500
        (Demo.yearEnd.seconds - s.reserve.lastUpdatedAt.seconds) := by
  obtain ⟨s₀, history, s, hdeployed, past, -, hcheck⟩ := exists_run Demo.growth_ok
  unfold Demo.growthCheck at hcheck
  split at hcheck
  · rename_i ts s' hreplay
    simp only [Bool.and_eq_true, List.all_eq_true, decide_eq_true_eq] at hcheck
    obtain ⟨⟨⟨⟨hcalls, hrate⟩, hnow⟩, hbefore⟩, hafter⟩ := hcheck
    split at hafter
    · rename_i r hr
      have run : Run PoolStep s ts s' := run_of_replay (fun _ _ _ _ h => h) hreplay
      have hreach : Reachable s := ⟨_, s₀, history, hdeployed, past⟩
      obtain ⟨-, hbound⟩ := debt_growth_bounded hreach run
        (fun x hx hsender => absurd hsender (hcalls x hx).1) hnow hr hbefore
        (of_decide_eq_true hafter)
      refine ⟨s, ts, s', r, hreach, run, hr, hbefore, of_decide_eq_true hafter, ?_⟩
      refine hbound (1 / 5) (fun x hx => ?_) ?_
      · rw [(hcalls x hx).2]
        exact Demo.percent_toRat_le
      · rw [hrate]
        exact Demo.percent_toRat_le
    · cases hafter
  · cases hcheck

end DemocratizedPrime
