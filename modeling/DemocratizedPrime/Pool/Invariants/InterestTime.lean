import DemocratizedPrime.Pool.Replay
import Mathlib.Data.List.Basic

/-!
# Interest in time

Ten kinds of messages accrue interest, and each of them must do so before it
changes what the interest is computed from.  `AccruesFirst s t s'` says that a step
from `s` to `s'` began with the accrual up to `t`: the reserve of `s` is charged
with the totals and the parameters of `s`, and the change starts from the result.

An accrual charges whole seconds, while the time stamp keeps nanoseconds and is left
as it is within a second.  The seconds of the time stamp are those of the last
accrual all the same (`lastUpdated_step`), so what is charged along a run adds up to
the seconds between the deployment and the last accrual
(`chargedSeconds_sum`).

The indexes move with an accrual and with a haircut only.  The first lets neither of
them shrink, and the second is for a loss.
-/

namespace DemocratizedPrime

open Result Transitions

/-! ## The accrual comes first -/

/-- A loss lowered the liquidity index of `r`, which may have lost some of its debt
before. -/
def CutFrom (r r' : ReserveStateV1) : Prop :=
  ∃ (total loss : Uint128) (cut : ReserveStateV1),
    applyProRataLiquidityIndexHaircut { r with totalScaledBorrow := total } loss = .ok cut ∧
      r'.liquidityIndex = cut.liquidityIndex

/-- The step accrues up to `t`, with the totals and the parameters that it finds,
and changes the result. -/
def AccruesFirst (s : PoolStorage) (t : Timestamp) (s' : PoolStorage) : Prop :=
  ∃ r, computeEffectiveReserve s t s.contract.rateParams = .ok r ∧
    s'.reserve.borrowIndex = r.borrowIndex ∧
    s'.reserve.lastUpdatedAt = r.lastUpdatedAt ∧
    (s'.reserve.liquidityIndex = r.liquidityIndex ∨ CutFrom r s'.reserve)

/-- A step that changes neither index after the accrual. -/
theorem AccruesFirst.of_indexes {s s' : PoolStorage} {t : Timestamp} {r : ReserveStateV1}
    (accrued : AccruedTo s t r)
    (hindexes : (s'.reserve.liquidityIndex, s'.reserve.borrowIndex, s'.reserve.lastUpdatedAt) =
      (r.liquidityIndex, r.borrowIndex, r.lastUpdatedAt)) : AccruesFirst s t s' := by
  obtain ⟨hl, hb, ht⟩ : _ ∧ _ ∧ _ := by simpa only [Prod.mk.injEq] using hindexes
  exact ⟨r, accrued, hb, ht, Or.inl hl⟩

theorem ExecuteMsg.accruesInterest_of_isNeutral {m : ExecuteMsg} (h : m.isNeutral = true) :
    m.accruesInterest = false := by
  cases m with
  | receive cw20Msg =>
    simp only [ExecuteMsg.isNeutral, ExecuteMsg.accruesInterest] at h ⊢
    split at h
    · rename_i hp
      rw [hp]
    · rename_i hp
      rw [hp]
    · cases h
  | _ => first | rfl | cases h

theorem ExecuteMsg.accruesInterest_of_isWithdrawal {m : ExecuteMsg}
    (h : m.isWithdrawal = true) : m.accruesInterest = true := by
  cases m with
  | receive => exact h
  | withdraw => rfl
  | _ => cases h

/-- What every step does to the reserve: it accrues first, or it leaves the reserve
and the rate parameters alone. -/
theorem PoolStep.accrual {s s' : PoolStorage} {e : Event} (h : PoolStep s e s') :
    (e.msg.accruesInterest = true ∧ AccruesFirst s e.env.blockTime s') ∨
      (e.msg.accruesInterest = false ∧ s'.reserve = s.reserve ∧
        s'.contract.rateParams = s.contract.rateParams) := by
  cases h.effect with
  | neutral msg _ change =>
    exact Or.inr ⟨ExecuteMsg.accruesInterest_of_isNeutral msg, change.reserve,
      by rw [change.contract]⟩
  | updateSupportedCollateral msg _ _ contract =>
    refine Or.inr ⟨by rw [msg]; rfl, rfl, ?_⟩
    rw [PoolStorage.setContractStateV1_contract, contract]
  | updateContractConfig msg _ _ applied =>
    refine Or.inr ⟨by rw [msg]; rfl, rfl, ?_⟩
    rw [PoolStorage.setContractStateV1_contract, (applyConfigParams_spec applied).1]
  | addCollateral msg =>
    exact Or.inr ⟨by rw [msg]; rfl, rfl, rfl⟩
  | updateRateParams msg _ _ accrued =>
    exact Or.inl ⟨by rw [msg]; rfl, .of_indexes accrued rfl⟩
  | lend msg _ _ accrued =>
    exact Or.inl ⟨by rw [msg]; rfl, .of_indexes accrued rfl⟩
  | burn msg _ accrued =>
    exact Or.inl ⟨ExecuteMsg.accruesInterest_of_isWithdrawal msg, .of_indexes accrued rfl⟩
  | borrow msg _ _ accrued =>
    exact Or.inl ⟨by rw [msg]; rfl, .of_indexes accrued rfl⟩
  | repay msg _ _ accrued =>
    exact Or.inl ⟨by rw [msg]; rfl, .of_indexes accrued rfl⟩
  | removeCollateral msg _ _ accrued =>
    exact Or.inl ⟨by rw [msg]; rfl, .of_indexes accrued rfl⟩
  | @liquidate borrower seize outgoing totals t p r' offers msg target plan booked =>
    refine Or.inl ⟨by rw [msg]; rfl, ?_⟩
    obtain ⟨total, ⟨-, -, hr'⟩ | ⟨-, -, ⟨-, hcut⟩ | ⟨-, -, hr'⟩⟩⟩ := bookRepayment_spec booked
    · refine .of_indexes target.accrued ?_
      change (r'.liquidityIndex, r'.borrowIndex, r'.lastUpdatedAt) = _
      rw [hr']
    · have hframe := applyHaircut_frame hcut
      refine ⟨t.reserve, target.accrued, ?_, ?_, Or.inr ⟨total, _, r', hcut, rfl⟩⟩
      · change r'.borrowIndex = _
        rw [hframe]
      · change r'.lastUpdatedAt = _
        rw [hframe]
    · refine .of_indexes target.accrued ?_
      change (r'.liquidityIndex, r'.borrowIndex, r'.lastUpdatedAt) = _
      rw [hr']
  | eliminateFromReserve msg _ _ accrued =>
    exact Or.inl ⟨by rw [msg]; rfl, .of_indexes accrued rfl⟩
  | eliminateFromBank msg _ _ accrued =>
    exact Or.inl ⟨by rw [msg]; rfl, .of_indexes accrued rfl⟩
  | @socializeDeficit maxAmount amount deficit r cut msg _ _ accrued _ haircut =>
    refine Or.inl ⟨by rw [msg]; rfl, ?_⟩
    have hframe := applyHaircut_frame haircut
    refine ⟨r, accrued, ?_, ?_, Or.inr ⟨r.totalScaledBorrow, amount, cut, haircut, rfl⟩⟩
    · rw [PoolStorage.setReserveStateV1_reserve]
      dsimp only
      rw [hframe]
    · rw [PoolStorage.setReserveStateV1_reserve]
      dsimp only
      rw [hframe]
  | withdrawReserve msg _ _ accrued =>
    exact Or.inl ⟨by rw [msg]; rfl, .of_indexes accrued rfl⟩

/-! ## The seconds that are charged -/

/-- The seconds whose interest a step charges. -/
def chargedSeconds (s : PoolStorage) (e : Event) : Nat :=
  if e.msg.accruesInterest = true then
    timeElapsedSeconds s.reserve.lastUpdatedAt e.env.blockTime
  else 0

/-- The step charges the reserve of `s` with interest for `seconds`, at the totals and the
parameters that it finds, and changes the result. -/
def ChargesFor (s : PoolStorage) (t : Timestamp) (seconds : Nat) (s' : PoolStorage) : Prop :=
  ∃ r, (if seconds = 0 then r = s.reserve
      else accrueInterest s.reserve t seconds s.contract.rateParams = .ok r) ∧
    s'.reserve.borrowIndex = r.borrowIndex ∧
    s'.reserve.lastUpdatedAt = r.lastUpdatedAt ∧
    (s'.reserve.liquidityIndex = r.liquidityIndex ∨ CutFrom r s'.reserve)

/-- What an accruing step charges for are the seconds of `chargedSeconds`. -/
theorem AccruesFirst.chargesFor {s s' : PoolStorage} {e : Event}
    (h : AccruesFirst s e.env.blockTime s') (hkind : e.msg.accruesInterest = true) :
    ChargesFor s e.env.blockTime (chargedSeconds s e) s' := by
  obtain ⟨r, accrued, hborrow, hlast, hliquidity⟩ := h
  refine ⟨r, ?_, hborrow, hlast, hliquidity⟩
  rw [chargedSeconds, if_pos hkind]
  split
  · rename_i he
    exact AccruedTo.sameSecond accrued he
  · rename_i he
    exact AccruedTo.charged accrued he

/-- The block time of the last message that accrues, and `t` before the first. -/
def lastAccrual (t : Timestamp) (calls : List Call) : Timestamp :=
  calls.foldl (fun last c => if c.msg.accruesInterest = true then c.env.blockTime else last) t

theorem lastAccrual_seconds (t : Timestamp) (calls : List Call) :
    (lastAccrual t calls).seconds = calls.foldl (fun last c =>
      if c.msg.accruesInterest = true then c.env.blockTime.seconds else last) t.seconds := by
  refine (List.foldl_hom Timestamp.seconds fun last c => ?_).symm
  split <;> rfl

/-- The clock of a block, in nanoseconds. -/
def Event.nanos (e : Event) : Nat := e.env.blockTime.nanos.val

/-- After an accrual the time stamp lies in the second of the block. -/
theorem AccruedTo.seconds {s : PoolStorage} {t : Timestamp} {r : ReserveStateV1}
    (h : AccruedTo s t r) (ht : s.reserve.lastUpdatedAt.seconds ≤ t.seconds) :
    r.lastUpdatedAt.seconds = t.seconds := by
  by_cases he : timeElapsedSeconds s.reserve.lastUpdatedAt t = 0
  · rw [h.sameSecond he]
    unfold timeElapsedSeconds at he
    omega
  · rw [(h.interest he).frame]

/-- The second of the time stamp after a step: that of the block if the message
accrues, and the same as before otherwise. -/
theorem lastUpdated_step {s s' : PoolStorage} {e : Event}
    (ht : s.reserve.lastUpdatedAt.seconds ≤ e.env.blockTime.seconds) (h : PoolStep s e s') :
    s'.reserve.lastUpdatedAt.seconds =
      if e.msg.accruesInterest = true then e.env.blockTime.seconds
      else s.reserve.lastUpdatedAt.seconds := by
  rcases h.accrual with ⟨hkind, r, hr, -, hlast, -⟩ | ⟨hkind, hreserve, -⟩
  · rw [hkind, if_pos rfl, hlast]
    exact AccruedTo.seconds hr ht
  · rw [hkind, if_neg Bool.false_ne_true, hreserve]

/-- The steps of a pool whose blocks do not go back in time. -/
abbrev BlockStep : PoolStorage × Nat → Event → PoolStorage × Nat → Prop :=
  Clocked Event.nanos PoolStep

/-- The time stamp does not lie after the second of the clock. -/
def StampBehind (x : PoolStorage × Nat) : Prop :=
  x.1.reserve.lastUpdatedAt.seconds ≤ x.2 / 1000000000

/-- The next block is not before the time stamp either. -/
theorem StampBehind.le {x x' : PoolStorage × Nat} {e : Event} (h : StampBehind x)
    (hstep : BlockStep x e x') :
    x.1.reserve.lastUpdatedAt.seconds ≤ e.env.blockTime.seconds :=
  Nat.le_trans h (Nat.div_le_div_right hstep.1)

theorem StampBehind.step {x x' : PoolStorage × Nat} {e : Event} (h : StampBehind x)
    (hstep : BlockStep x e x') : StampBehind x' := by
  have hle := h.le hstep
  unfold StampBehind
  rw [hstep.2.1, lastUpdated_step hle hstep.2.2]
  split
  · exact Nat.le_refl _
  · exact hle

section Run

variable {t : Timestamp} {s₀ s : PoolStorage} {now : Nat}
  {ts : List (Transition (PoolStorage × Nat) Event)}

/-- Along a run the second of the time stamp is that of the last accrual. -/
theorem lastUpdated_eq (h₀ : s₀.reserve.lastUpdatedAt = t)
    (run : Run BlockStep (s₀, t.nanos.val) ts (s, now)) :
    s.reserve.lastUpdatedAt.seconds = (lastAccrual t (ts.map (·.label.toCall))).seconds := by
  have hbehind : StampBehind (s₀, t.nanos.val) := by
    unfold StampBehind
    rw [h₀]
    exact Nat.le_refl _
  have hfold := run.foldl_eq (I := StampBehind)
    (m := fun x => x.1.reserve.lastUpdatedAt.seconds)
    (f := fun last (e : Event) =>
      if e.msg.accruesInterest = true then e.env.blockTime.seconds else last)
    (fun _ _ _ => StampBehind.step)
    (fun _ _ _ h hstep => lastUpdated_step (h.le hstep) hstep.2.2) hbehind
  rw [hfold, h₀, lastAccrual_seconds, List.foldl_map, List.foldl_map]

/-- What is charged along a run adds up to the seconds from the deployment to the last
accrual. -/
theorem chargedSeconds_sum (h₀ : s₀.reserve.lastUpdatedAt = t)
    (run : Run BlockStep (s₀, t.nanos.val) ts (s, now)) :
    t.seconds + (ts.map fun x => chargedSeconds x.pre.1 x.label).sum =
      (lastAccrual t (ts.map (·.label.toCall))).seconds := by
  have hbehind : StampBehind (s₀, t.nanos.val) := by
    unfold StampBehind
    rw [h₀]
    exact Nat.le_refl _
  have hsum := run.sum_eq (I := StampBehind)
    (m := fun x => x.1.reserve.lastUpdatedAt.seconds) (l := fun _ => 0)
    (g := fun x => chargedSeconds x.pre.1 x.label) (fun _ _ _ => StampBehind.step)
    (fun x e x' h hstep => by
      have hle := h.le hstep
      rw [lastUpdated_step hle hstep.2.2]
      unfold chargedSeconds timeElapsedSeconds
      dsimp only
      split <;> omega) hbehind
  rw [← lastUpdated_eq h₀ run]
  simpa [h₀] using hsum.symm

end Run

/-! ## The indexes -/

/-- The borrow index has not fallen below one, and the liquidity index is not zero. -/
structure IndexesPositive (s : PoolStorage) : Prop where
  borrow : decimalFractional ≤ s.reserve.borrowIndex.atomics
  liquidity : 0 < s.reserve.liquidityIndex.atomics

/-- A haircut leaves an index that is not zero. -/
theorem CutFrom.pos {r r' : ReserveStateV1} (h : CutFrom r r')
    (hr : 0 < r.liquidityIndex.atomics) : 0 < r'.liquidityIndex.atomics := by
  obtain ⟨total, loss, cut, hcut, hindex⟩ := h
  rw [hindex]
  by_cases hzero : loss.val = 0
  · rw [applyHaircut_zero hcut hzero]
    exact hr
  · have hne := (applyHaircut_eq hcut (by omega)).2.2.2.2
    omega

/-- No step lowers the borrow index. -/
theorem PoolStep.borrowIndex_le {s s' : PoolStorage} {e : Event} (h : PoolStep s e s') :
    s.reserve.borrowIndex.atomics ≤ s'.reserve.borrowIndex.atomics := by
  rcases h.accrual with ⟨-, r, hr, hindex, -⟩ | ⟨-, hreserve, -⟩
  · rw [hindex]
    exact AccruedTo.borrowIndex_le hr
  · rw [hreserve]

namespace IndexesPositive

variable {s s' : PoolStorage}

theorem fresh {t : Timestamp} (h : FreshPool t s) : IndexesPositive s := by
  refine ⟨?_, ?_⟩
  · rw [h.reserve]
    exact Nat.le_refl _
  · rw [h.reserve]
    exact Nat.zero_lt_succ _

theorem step {e : Event} (h : IndexesPositive s) (hstep : PoolStep s e s') :
    IndexesPositive s' := by
  refine ⟨Nat.le_trans h.borrow hstep.borrowIndex_le, ?_⟩
  rcases hstep.accrual with ⟨-, r, hr, -, -, hindex | hcut⟩ | ⟨-, hreserve, -⟩
  · rw [hindex]
    exact Nat.lt_of_lt_of_le h.liquidity (AccruedTo.liquidityIndex_le hr)
  · exact hcut.pos (Nat.lt_of_lt_of_le h.liquidity (AccruedTo.liquidityIndex_le hr))
  · rw [hreserve]
    exact h.liquidity

end IndexesPositive

theorem Reachable.indexesPositive {s : PoolStorage} (h : Reachable s) : IndexesPositive s :=
  h.invariant (fun _ _ => IndexesPositive.fresh) (fun _ _ _ => IndexesPositive.step)

/-- The message is a liquidation that writes off what is left of the debt. -/
def WritesOff (s : PoolStorage) (e : Event) : Prop :=
  ∃ borrower seize target plan, e.msg = .liquidate borrower seize ∧
    liquidationTarget e.deps s e.env e.info borrower seize = .ok target ∧
    planLiquidation s.ownership s.contract e.info target seize = .ok plan ∧
    plan.badDebt = true

/-- A liquidation that lowers the liquidity index writes debt off, and the pool
spreads the loss at once. -/
theorem writesOff_of_liquidityIndex_lt {s s' : PoolStorage} {e : Event} {borrower : String}
    {seize : Amounts} (hmsg : e.msg = .liquidate borrower seize) (h : PoolStep s e s')
    (hlt : s'.reserve.liquidityIndex.atomics < s.reserve.liquidityIndex.atomics) :
    WritesOff s e ∧ s.contract.badDebtLossAllocation = .immediateLiquidityIndexHaircut := by
  have hd : dispatch e.deps s e.env e.info e.msg = .ok (s', e.response) := execute_eq_ok h
  rw [hmsg] at hd
  have hliq : liquidate e.deps s e.env e.info borrower seize = .ok (s', e.response) := hd
  obtain ⟨t, p, ht, hp, hsettle⟩ := liquidate_stages hliq
  obtain ⟨r', outgoing, totals, hbook, -, -, hs', -⟩ := settleLiquidation_spec hsettle
  have hreserve : s'.reserve = r' := by
    rw [hs', shrinkOffer_eq]
    rfl
  have hle := (liquidationTarget_spec ht).accrued.liquidityIndex_le
  rw [hreserve] at hlt
  -- Only the booking of a loss under the immediate haircut writes the index.
  obtain ⟨total, ⟨-, -, hr'⟩ | ⟨hbad, -, ⟨halloc, -⟩ | ⟨-, -, hr'⟩⟩⟩ := bookRepayment_spec hbook
  · rw [hr'] at hlt
    exact absurd hlt (Nat.not_lt.mpr hle)
  · exact ⟨⟨borrower, seize, t, p, hmsg, ht, hp, hbad⟩, halloc⟩
  · rw [hr'] at hlt
    exact absurd hlt (Nat.not_lt.mpr hle)

/-- The liquidity index goes down in the socialization of a deficit, or in a
write-off of a pool that spreads its losses at once. -/
theorem PoolStep.liquidityIndex_lt {s s' : PoolStorage} {e : Event} (h : PoolStep s e s')
    (hlt : s'.reserve.liquidityIndex.atomics < s.reserve.liquidityIndex.atomics) :
    (∃ maxAmount, e.msg = .socializeDeficit maxAmount) ∨
      (WritesOff s e ∧
        s.contract.badDebtLossAllocation = .immediateLiquidityIndexHaircut) := by
  have hkept : ∀ {r : ReserveStateV1}, AccruedTo s e.env.blockTime r →
      ¬ r.liquidityIndex.atomics < s.reserve.liquidityIndex.atomics := by
    intro r accrued
    exact Nat.not_lt.mpr accrued.liquidityIndex_le
  cases h.effect with
  | neutral _ _ change =>
    rw [change.reserve] at hlt
    exact absurd hlt (Nat.lt_irrefl _)
  | updateSupportedCollateral => exact absurd hlt (Nat.lt_irrefl _)
  | updateContractConfig => exact absurd hlt (Nat.lt_irrefl _)
  | addCollateral => exact absurd hlt (Nat.lt_irrefl _)
  | updateRateParams _ _ _ accrued => exact (hkept accrued hlt).elim
  | lend _ _ _ accrued => exact (hkept accrued hlt).elim
  | burn _ _ accrued => exact (hkept accrued hlt).elim
  | borrow _ _ _ accrued => exact (hkept accrued hlt).elim
  | repay _ _ _ accrued => exact (hkept accrued hlt).elim
  | removeCollateral _ _ _ accrued => exact (hkept accrued hlt).elim
  | liquidate msg => exact Or.inr (writesOff_of_liquidityIndex_lt msg h hlt)
  | eliminateFromReserve _ _ _ accrued => exact (hkept accrued hlt).elim
  | eliminateFromBank _ _ _ accrued => exact (hkept accrued hlt).elim
  | socializeDeficit msg => exact Or.inl ⟨_, msg⟩
  | withdrawReserve _ _ _ accrued => exact (hkept accrued hlt).elim

/-! ## Within a block -/

/-- A haircut does not raise the liquidity index. -/
theorem CutFrom.le {r r' : ReserveStateV1} (h : CutFrom r r') :
    r'.liquidityIndex.atomics ≤ r.liquidityIndex.atomics := by
  obtain ⟨total, loss, cut, hcut, hindex⟩ := h
  rw [hindex]
  by_cases hzero : loss.val = 0
  · rw [applyHaircut_zero hcut hzero]
  · obtain ⟨-, -, -, hcut_eq, -⟩ := applyHaircut_eq hcut (by omega)
    rw [hcut_eq]
    apply Nat.div_le_of_le_mul
    exact Nat.sub_le _ _

/-- After a step in a block the reserve can be accrued to that block again, and the
liquidity index is not higher than before. -/
theorem PoolStep.accruedAgain {s s' : PoolStorage} {e : Event} {r : ReserveStateV1}
    (h : PoolStep s e s') (hr : AccruedTo s e.env.blockTime r) :
    ∃ r', AccruedTo s' e.env.blockTime r' ∧
      r'.liquidityIndex.atomics ≤ r.liquidityIndex.atomics := by
  rcases h.accrual with ⟨-, r₁, hr₁, -, hlast, hindex⟩ | ⟨-, hreserve, hparams⟩
  · obtain rfl : r₁ = r := Except.ok.inj (hr₁.symm.trans hr)
    refine ⟨s'.reserve, ?_, ?_⟩
    · have helapsed := hr.elapsed_eq_zero
      rw [← hlast] at helapsed
      exact AccruedTo.still helapsed
    · rcases hindex with hsame | hcut
      · rw [hsame]
      · exact hcut.le
  · exact ⟨r, hr.of_reserve hreserve hparams, Nat.le_refl _⟩

/-! ## Along a run -/

/-- The reserve's totals and indexes and the rate parameters. -/
def ReserveStateV1.accounted (r : ReserveStateV1) (p : RateParamsV1) :
    Uint128 × Uint128 × Decimal256 × Decimal256 × RateParamsV1 :=
  (r.totalScaledLiquidity, r.totalScaledBorrow, r.liquidityIndex, r.borrowIndex, p)

/-- Along every run from a new pool whose blocks do not go back in time: a step that
changes a total, an index or the rate parameters accrues first, and an accrual charges
interest for `chargedSeconds`; the seconds that are charged are those from the deployment
to the last accrual; the borrow index starts
at one and never goes down; and the liquidity index stays positive and goes down
for a loss only. -/
theorem interest_accounting {t : Timestamp} {s₀ s : PoolStorage} {now : Nat}
    {ts : List (Transition (PoolStorage × Nat) Event)} (hdeployed : DeployedAt t s₀)
    (run : Run BlockStep (s₀, t.nanos.val) ts (s, now)) :
    (∀ x ∈ ts,
      x.post.1.reserve.accounted x.post.1.contract.rateParams ≠
          x.pre.1.reserve.accounted x.pre.1.contract.rateParams →
        x.label.msg.accruesInterest = true ∧
          AccruesFirst x.pre.1 x.label.env.blockTime x.post.1) ∧
      (∀ x ∈ ts, x.label.msg.accruesInterest = true →
        ChargesFor x.pre.1 x.label.env.blockTime (chargedSeconds x.pre.1 x.label) x.post.1) ∧
      (∀ x ∈ ts, x.label.msg.accruesInterest = false →
        x.post.1.reserve = x.pre.1.reserve) ∧
      t.seconds + (ts.map fun x => chargedSeconds x.pre.1 x.label).sum =
        (lastAccrual t (ts.map (·.label.toCall))).seconds ∧
      (∀ x ∈ ts, x.pre.1.reserve.borrowIndex.atomics ≤ x.post.1.reserve.borrowIndex.atomics) ∧
      10 ^ 18 ≤ s.reserve.borrowIndex.atomics ∧ 0 < s.reserve.liquidityIndex.atomics ∧
      ∀ x ∈ ts,
        x.post.1.reserve.liquidityIndex.atomics < x.pre.1.reserve.liquidityIndex.atomics →
          (∃ maxAmount, x.label.msg = .socializeDeficit maxAmount) ∨
            (WritesOff x.pre.1 x.label ∧
              x.pre.1.contract.badDebtLossAllocation = .immediateLiquidityIndexHaircut) := by
  have hsteps : ∀ x ∈ ts, PoolStep x.pre.1 x.label x.post.1 :=
    fun x hx => (run.isStep x hx).2.2
  have hindexes : IndexesPositive s :=
    run.unclock.invariant (fun _ _ _ => IndexesPositive.step)
      (IndexesPositive.fresh hdeployed.fresh)
  have h₀ : s₀.reserve.lastUpdatedAt = t := by
    rw [hdeployed.fresh.reserve]
    rfl
  refine ⟨fun x hx hne => ?_, fun x hx hkind => ?_, fun x hx hkind => ?_, chargedSeconds_sum h₀ run,
    fun x hx => (hsteps x hx).borrowIndex_le, hindexes.borrow, hindexes.liquidity,
    fun x hx => (hsteps x hx).liquidityIndex_lt⟩
  · rcases (hsteps x hx).accrual with h | ⟨-, hreserve, hparams⟩
    · exact h
    · rw [hreserve, hparams] at hne
      exact absurd rfl hne
  · rcases (hsteps x hx).accrual with ⟨-, h⟩ | ⟨hfalse, -⟩
    · exact h.chargesFor hkind
    · rw [hkind] at hfalse
      cases hfalse
  · rcases (hsteps x hx).accrual with ⟨htrue, -⟩ | ⟨-, hreserve, -⟩
    · rw [hkind] at htrue
      cases htrue
    · exact hreserve

/-- A thousand seconds after the loan, its interest is charged. -/
theorem interest_accounting_season :
    ∃ s₀ ts s now, DeployedAt (Demo.env 0).blockTime s₀ ∧
      Run BlockStep (s₀, (Demo.env 0).blockTime.nanos.val) ts (s, now) ∧
      (Demo.env 0).blockTime.seconds + (ts.map fun x => chargedSeconds x.pre.1 x.label).sum =
        (Demo.env 1000).blockTime.seconds := by
  obtain ⟨s₀, ts, s, hdeployed, run, hcalls, -⟩ := exists_run Demo.season_ok
  have hclock : List.IsChain (· ≤ ·)
      ((Demo.env 0).blockTime.nanos.val :: ts.map fun x => x.label.nanos) := by
    have htimes : (ts.map fun x => x.label.nanos) =
        Demo.season.map fun c => c.env.blockTime.nanos.val := by
      rw [← hcalls, List.map_map]
      rfl
    rw [htimes]
    decide
  obtain ⟨ts', now, run', hlabels⟩ := run.exists_clocked hclock
  refine ⟨s₀, ts', s, now, hdeployed, run', ?_⟩
  have hlast : ts'.map (·.label.toCall) = Demo.season := by
    have hmap := congrArg (List.map Event.toCall) hlabels
    rw [List.map_map, List.map_map] at hmap
    exact hmap.trans hcalls
  rw [(interest_accounting hdeployed run').2.2.2.1, hlast]
  rfl

end DemocratizedPrime
