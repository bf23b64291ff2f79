import DemocratizedPrime.Pool.Reporting
import DemocratizedPrime.Pool.Accrual
import DemocratizedPrime.Pool.Haircut
import DemocratizedPrime.Pool.Replay
import DemocratizedPrime.Pool.Invariants.ConfigSafety

/-!
# Two ways to allocate a loss

The loss of a write-off lowers the lenders' index at once, or it is booked as a deficit
that the owner socializes later.  `loss_allocations_agree` compares the two on the same
message, with `SocializeDeficit` in the same block.

Up to the settlement nothing reads the setting (`liquidationTarget_allocating` and
`planLiquidation_allocating`).  The settlements differ in the reserve that they book
(`bookRepayment_immediate`, `bookRepayment_deferred`).  The second message accrues nothing, and
its haircut starts from the same claims, because a haircut does not look at the deficit
(`applyHaircut_deficit`).
-/

namespace DemocratizedPrime

open Result

/-- The pool with the losses allocated in the way given. -/
def PoolStorage.allocating (s : PoolStorage) (a : BadDebtLossAllocation) : PoolStorage :=
  s.setContractStateV1 { s.contract with badDebtLossAllocation := a }

/-- If the message comes as far as a plan, the plan writes off debt. -/
def IsWriteOff (deps : Deps) (s : PoolStorage) (env : Env) (info : MessageInfo)
    (borrower : String) (seize : Amounts) : Prop :=
  ∀ t p, liquidationTarget deps s env info borrower seize = .ok t →
    planLiquidation s.ownership s.contract info t seize = .ok p → p.badDebt = true

/-! ## Before the settlement -/

section

variable {deps : Deps} {s s' : PoolStorage} {env : Env} {info : MessageInfo} {borrower : String}
  {seize : Amounts} {a : BadDebtLossAllocation} {t : LiquidationTarget} {p : LiquidationPlan}
  {res : Response}

/-- Code that goes on after an accrual sees the reserve and the storage with it. -/
theorem updateReserveIndexes_bind {α : Type} {p : RateParamsV1}
    {f : PoolStorage × ReserveStateV1 → ContractResult α} :
    (updateReserveIndexes s env p >>= f) =
      (computeEffectiveReserve s env.blockTime p >>= fun r => f (s.setReserveStateV1 r, r)) := by
  unfold updateReserveIndexes
  rw [bind_assoc]
  rfl

theorem liquidationTarget_allocating :
    liquidationTarget deps (s.allocating a) env info borrower seize =
      liquidationTarget deps s env info borrower seize := by
  unfold liquidationTarget
  simp only [updateReserveIndexes_bind]
  rfl

theorem planLiquidation_allocating :
    planLiquidation (s.allocating a).ownership (s.allocating a).contract info t seize =
      planLiquidation s.ownership s.contract info t seize := rfl

/-! ## The settlement -/

/-- The storage after a settlement that books the reserve `r`. -/
def settled (s : PoolStorage) (t : LiquidationTarget) (p : LiquidationPlan) (seize : Amounts)
    (r : ReserveStateV1) (totals : Amounts) : PoolStorage :=
  shrinkOffer
    { ((s.setScaledBorrow t.borrower (if p.badDebt then 0 else p.newScaledDebt)).setReserveStateV1
        r).setBorrowerCollateral t.borrower (if p.badDebt then ∅ else p.postCollateral) with
      totalCollateralByAsset := totals } t seize

/-- The loop over what leaves the pool. -/
def SentOut (s : PoolStorage) (p : LiquidationPlan) (seize outgoing totals : Amounts) : Prop :=
  ((normalizeSeizeMap seize).toList ++ (sweptCollateral p).toList).foldlM sendOutEntry (∅, s) =
    .ok (outgoing, { s with totalCollateralByAsset := totals })

/-- The coins that a liquidation sends. -/
def liquidationMessages (c : ContractStateV1) (info : MessageInfo) (p : LiquidationPlan)
    (outgoing : Amounts) : List CosmosMsg :=
  sendMessages info.sender (outgoing.toList.map entryCoin) ++
    refundOf info.sender c.lendingDenom.name p.sent p.actualRepay

/-- The loop reads and writes the totals only. -/
theorem sendOutEntry_foldlM_of_totals {l : List (String × Uint128)} {out out' : Amounts}
    {s₁ s₁' s₂ : PoolStorage} (h : l.foldlM sendOutEntry (out, s₁) = .ok (out', s₁'))
    (hsame : s₂.totalCollateralByAsset = s₁.totalCollateralByAsset) :
    l.foldlM sendOutEntry (out, s₂) =
      .ok (out', { s₂ with totalCollateralByAsset := s₁'.totalCollateralByAsset }) := by
  induction l generalizing out s₁ s₂ with
  | nil =>
    rw [List.foldlM_nil, pure_eq_ok, Prod.mk.injEq] at h
    obtain ⟨rfl, rfl⟩ := h
    rw [List.foldlM_nil, ← hsame]
    rfl
  | cons e rest ih =>
    rw [List.foldlM_cons, bind_eq_ok] at h
    obtain ⟨⟨out₁, mid⟩, hstep, hrest⟩ := h
    simp only [sendOutEntry, PoolStorage.subtractTotalCollateral,
      PoolStorage.getTotalCollateralByAsset, bind_eq_ok, okOr_eq_ok, pure_eq_ok,
      Prod.mk.injEq] at hstep
    obtain ⟨slot, hslot, _, ⟨total, htotal, rfl⟩, rfl, rfl⟩ := hstep
    have hstep₂ : sendOutEntry (out, s₂) e =
        .ok (out.insert e.1 slot, s₂.putTotalCollateral e.1 total) := by
      simp only [sendOutEntry, PoolStorage.subtractTotalCollateral,
        PoolStorage.getTotalCollateralByAsset, bind_eq_ok, okOr_eq_ok, pure_eq_ok, hsame]
      exact ⟨slot, hslot, _, ⟨total, htotal, rfl⟩, rfl⟩
    rw [List.foldlM_cons, hstep₂, ok_bind]
    refine ih hrest ?_
    show TreeMap.putUnless _ s₂.totalCollateralByAsset _ _ =
      TreeMap.putUnless _ s₁.totalCollateralByAsset _ _
    rw [hsame]

theorem SentOut.of_totals {outgoing totals : Amounts} {s₂ : PoolStorage}
    (h : SentOut s p seize outgoing totals)
    (hsame : s₂.totalCollateralByAsset = s.totalCollateralByAsset) :
    SentOut s₂ p seize outgoing totals :=
  sendOutEntry_foldlM_of_totals h hsame

/-- What a settlement computed. -/
theorem settleLiquidation_computed {c : ContractStateV1}
    (h : settleLiquidation s c info t p seize = .ok (s', res)) :
    ∃ r outgoing totals, bookRepayment c t.reserve p = .ok r ∧ SentOut s p seize outgoing totals ∧
      RatesComputed r c.rateParams ∧ s' = settled s t p seize r totals ∧
      res.messages = liquidationMessages c info p outgoing := by
  obtain ⟨r, outgoing, store, report, hbook, hloop, hreport, hs', hmessages⟩ :=
    settleLiquidation_stages h
  have hout : SentOut s p seize outgoing store.totalCollateralByAsset :=
    sendOutEntry_foldlM_of_totals hloop rfl
  exact ⟨r, outgoing, store.totalCollateralByAsset, hbook, hout,
    isOk_attachRates_iff.mp ⟨_, hreport⟩, hs', hmessages⟩

/-- Whatever computes that much is a settlement. -/
theorem settleLiquidation_of_computed {c : ContractStateV1} {r : ReserveStateV1}
    {outgoing totals : Amounts} (hbook : bookRepayment c t.reserve p = .ok r)
    (hout : SentOut s p seize outgoing totals) (hrates : RatesComputed r c.rateParams) :
    ∃ res, settleLiquidation s c info t p seize = .ok (settled s t p seize r totals, res) ∧
      res.messages = liquidationMessages c info p outgoing := by
  unfold settleLiquidation
  rw [hbook, ok_bind]
  dsimp only
  rw [sendOutEntry_foldlM_of_totals hout (by rfl), ok_bind]
  dsimp only
  obtain ⟨res, hres⟩ := isOk_attachRates_iff.mpr hrates
  rw [hres, ok_bind]
  refine ⟨res, rfl, ?_⟩
  rw [attachRates_messages hres, addExcess_messages, addBadDebtAttributes_messages,
    addSend_messages]
  rfl

theorem settled_setReserve {r r' : ReserveStateV1} {totals : Amounts} :
    (settled s t p seize r totals).setReserveStateV1 r' = settled s t p seize r' totals := by
  unfold settled shrinkOffer
  split
  · split
    · rfl
    · dsimp only
      split <;> rfl
  · rfl

theorem settled_reserve {r : ReserveStateV1} {totals : Amounts} :
    (settled s t p seize r totals).reserve = r := by
  rw [settled, shrinkOffer_eq]
  rfl

theorem settled_contract {r : ReserveStateV1} {totals : Amounts} :
    (settled s t p seize r totals).contract = s.contract := by
  rw [settled, shrinkOffer_eq]
  rfl

theorem settled_ownership {r : ReserveStateV1} {totals : Amounts} :
    (settled s t p seize r totals).ownership = s.ownership := by
  rw [settled, shrinkOffer_eq]
  rfl

/-- A write-off leaves no debt, -/
theorem settled_debt {r : ReserveStateV1} {totals : Amounts} :
    (settled s t p seize r totals).getScaledBorrow t.borrower =
      if p.badDebt then 0 else p.newScaledDebt := by
  rw [settled, shrinkOffer_eq]
  exact (PoolStorage.getScaledBorrow_set s _ _ _).trans (if_pos rfl)

/-- and no collateral. -/
theorem settled_holdings {r : ReserveStateV1} {totals : Amounts} :
    (settled s t p seize r totals).getBorrowerCollateral t.borrower =
      if p.badDebt then ∅ else p.postCollateral := by
  rw [settled, shrinkOffer_eq]
  exact (PoolStorage.getBorrowerCollateral_set s _ _ _).trans (if_pos rfl)

theorem settled_allocating {r : ReserveStateV1} {totals : Amounts} :
    settled (s.allocating a) t p seize r totals = (settled s t p seize r totals).allocating a := by
  unfold settled shrinkOffer
  split
  · split
    · rfl
    · dsimp only
      split <;> rfl
  · rfl

/-! ## The two bookings -/

section

variable {r r' : ReserveStateV1}

/-- A haircut neither reads nor writes the deficit. -/
theorem applyHaircut_deficit {loss : Uint128} (d : Uint128)
    (h : applyProRataLiquidityIndexHaircut r loss = .ok r') :
    applyProRataLiquidityIndexHaircut { r with deficitUnderlying := d } loss =
      .ok { r' with deficitUnderlying := d } := by
  unfold applyProRataLiquidityIndexHaircut at h ⊢
  split
  · rename_i hzero
    rw [if_pos hzero, pure_eq_ok] at h
    rw [h]
    rfl
  · rename_i hloss
    rw [if_neg hloss] at h
    simp only [bind_eq_ok, pure_eq_ok] at h ⊢
    obtain ⟨l, hl, u, hu, d', hd', u', hu', x, hx, u'', hu'', y, hy, i, hi, u₃, hu₃, rfl⟩ := h
    exact ⟨l, hl, u, hu, d', hd', u', hu', x, hx, u'', hu'', y, hy, i, hi, u₃, hu₃, rfl⟩

/-- The rates of the reserve are computed before a haircut, if they are after it. -/
theorem RatesComputed.before_haircut {params : RateParamsV1} {loss : Uint128}
    (hp : params.Valid) (hpos : 0 < loss.val)
    (h : applyProRataLiquidityIndexHaircut r loss = .ok r') (hrates : RatesComputed r' params) :
    RatesComputed r params := by
  obtain ⟨hframe, htsl, hlt, hindex, hnonzero⟩ := applyHaircut_eq h hpos
  have hclaims := (applyHaircut_claims h hpos).1
  have hsame : r'.totalScaledLiquidity = r.totalScaledLiquidity := by rw [hframe]
  have hfits : r.totalScaledLiquidity.val * r.liquidityIndex.atomics < 2 ^ 256 := by
    unfold applyProRataLiquidityIndexHaircut at h
    rw [if_neg (Nat.ne_of_gt hpos)] at h
    simp only [bind_eq_ok] at h
    obtain ⟨l, hl, -⟩ := h
    rw [← totalLiquidity_eq_ok.mp hl]
    exact l.isLt
  refine hrates.mono hp (by rw [hframe]) (by rw [hframe]) hfits ?_ ?_
  · rw [hsame]
    exact Nat.mul_pos (Nat.pos_of_ne_zero htsl) (Nat.pos_of_ne_zero hnonzero)
  · unfold ReserveStateV1.claimAtomics at hclaims
    omega

/-- A booking of a write-off that lowers the index at once. -/
theorem bookRepayment_immediate {c : ContractStateV1}
    (halloc : c.badDebtLossAllocation = .immediateLiquidityIndexHaircut)
    (hbad : p.badDebt = true) :
    bookRepayment c r p = .ok r' ↔ ∃ cancelled total,
      p.scaledRepay.checkedAdd p.newScaledDebt = some cancelled ∧
      r.totalScaledBorrow.checkedSub cancelled = some total ∧
      applyProRataLiquidityIndexHaircut { r with totalScaledBorrow := total }
        p.badDebtUnderlying = .ok r' := by
  unfold bookRepayment
  rw [if_pos hbad, halloc]
  simp only [bind_eq_ok, okOr_eq_ok]
  constructor
  · rintro ⟨cancelled, hcancelled, total, htotal, hcut⟩
    exact ⟨cancelled, total, hcancelled, htotal, hcut⟩
  · rintro ⟨cancelled, total, hcancelled, htotal, hcut⟩
    exact ⟨cancelled, hcancelled, total, htotal, hcut⟩

/-- A booking of a write-off that becomes the whole deficit. -/
theorem bookRepayment_deferred {c : ContractStateV1}
    (halloc : c.badDebtLossAllocation = .deferredToDeficit) (hbad : p.badDebt = true)
    (hzero : r.deficitUnderlying.val = 0) :
    bookRepayment c r p = .ok r' ↔ ∃ cancelled total,
      p.scaledRepay.checkedAdd p.newScaledDebt = some cancelled ∧
      r.totalScaledBorrow.checkedSub cancelled = some total ∧
      r' = { r with totalScaledBorrow := total
                    deficitUnderlying := p.badDebtUnderlying } := by
  have hdeficit : r.deficitUnderlying.checkedAdd p.badDebtUnderlying =
      some p.badDebtUnderlying := by
    rw [Uint.checkedAdd_eq_some]
    omega
  unfold bookRepayment
  rw [if_pos hbad, halloc]
  simp only [bind_eq_ok, okOr_eq_ok, hdeficit, Option.some.injEq, pure_eq_ok]
  constructor
  · rintro ⟨cancelled, hcancelled, total, htotal, _, rfl, rfl⟩
    exact ⟨cancelled, total, hcancelled, htotal, rfl⟩
  · rintro ⟨cancelled, total, hcancelled, htotal, rfl⟩
    exact ⟨cancelled, hcancelled, total, htotal, _, rfl, rfl⟩

end

/-! ## The two paths -/

/-- What both paths compute: a plan, the total of the other debts, the reserve after the
haircut, and the coins. -/
structure WrittenOff (deps : Deps) (s : PoolStorage) (env : Env) (info : MessageInfo)
    (borrower : String) (seize : Amounts) (t : LiquidationTarget) (p : LiquidationPlan)
    (total : Uint128) (outgoing totals : Amounts) : Prop where
  target : liquidationTarget deps s env info borrower seize = .ok t
  plan : planLiquidation s.ownership s.contract info t seize = .ok p
  cancelled : ∃ cancelled, p.scaledRepay.checkedAdd p.newScaledDebt = some cancelled ∧
    t.reserve.totalScaledBorrow.checkedSub cancelled = some total
  sentOut : SentOut s p seize outgoing totals

/-- The loss is positive, since the index that prices the rest of the debt is. -/
theorem WrittenOff.loss_pos {total : Uint128} {outgoing totals : Amounts}
    (h : WrittenOff deps s env info borrower seize t p total outgoing totals)
    (hbad : p.badDebt = true) : 0 < p.badDebtUnderlying.val := by
  have target := liquidationTarget_spec h.target
  have plan := planLiquidation_spec h.plan
  have hindex : 0 < t.reserve.borrowIndex.atomics := by
    apply Nat.pos_of_ne_zero
    intro hzero
    have hdebt := target.debt_eq
    have hpos := target.debt_pos
    rw [hzero, Nat.mul_zero, Nat.zero_div] at hdebt
    omega
  have hnew := (plan.badDebt_iff.mp hbad).1
  have hloss := plan.loss
  unfold badDebtLoss at hloss
  rw [if_pos hbad] at hloss
  rw [scaledToUnderlyingBorrowCeil_eq hloss]
  apply Nat.div_pos _ (by decide)
  have hproduct := Nat.mul_pos hnew hindex
  unfold decimalFractional
  omega

/-- The stages of a liquidation under either setting. -/
theorem liquidate_allocating_iff {ms : List CosmosMsg} :
    (∃ res, liquidate deps (s.allocating a) env info borrower seize = .ok (s', res) ∧
      res.messages = ms) ↔
    ∃ t p r outgoing totals, liquidationTarget deps s env info borrower seize = .ok t ∧
      planLiquidation s.ownership s.contract info t seize = .ok p ∧
      bookRepayment (s.allocating a).contract t.reserve p = .ok r ∧
      SentOut s p seize outgoing totals ∧ RatesComputed r s.contract.rateParams ∧
      s' = (settled s t p seize r totals).allocating a ∧
      ms = liquidationMessages s.contract info p outgoing := by
  constructor
  · rintro ⟨res, h, rfl⟩
    obtain ⟨t, p, htarget, hplan, hsettle⟩ := liquidate_stages h
    rw [liquidationTarget_allocating] at htarget
    replace hplan := planLiquidation_allocating.symm.trans hplan
    obtain ⟨r, outgoing, totals, hbook, hout, hrates, hs', hmessages⟩ :=
      settleLiquidation_computed hsettle
    refine ⟨t, p, r, outgoing, totals, htarget, hplan, hbook, hout.of_totals rfl, hrates, ?_,
      hmessages⟩
    rw [hs', ← settled_allocating]
    rfl
  · rintro ⟨t, p, r, outgoing, totals, htarget, hplan, hbook, hout, hrates, rfl, rfl⟩
    obtain ⟨res, hsettle, hmessages⟩ : ∃ res,
        settleLiquidation ((s.allocating a).setReserveStateV1 t.reserve) (s.allocating a).contract
          info t p seize = .ok (settled (s.allocating a) t p seize r totals, res) ∧
        res.messages = liquidationMessages s.contract info p outgoing :=
      settleLiquidation_of_computed hbook (hout.of_totals rfl) hrates
    refine ⟨res, ?_, hmessages⟩
    unfold liquidate
    rw [liquidationTarget_allocating, htarget, ok_bind]
    dsimp only
    have hplan' : planLiquidation ((s.allocating a).setReserveStateV1 t.reserve).ownership
        ((s.allocating a).setReserveStateV1 t.reserve).contract info t seize = .ok p :=
      planLiquidation_allocating.trans hplan
    rw [hplan', ok_bind]
    rw [← settled_allocating]
    exact hsettle

/-- The immediate path: the haircut is part of the liquidation. -/
theorem liquidate_immediate_iff {ms : List CosmosMsg}
    (hwrite : IsWriteOff deps s env info borrower seize) :
    (∃ res, liquidate deps (s.allocating .immediateLiquidityIndexHaircut) env info borrower
        seize = .ok (s', res) ∧ res.messages = ms) ↔
    ∃ t p total outgoing totals cut,
      WrittenOff deps s env info borrower seize t p total outgoing totals ∧
      applyProRataLiquidityIndexHaircut { t.reserve with totalScaledBorrow := total }
        p.badDebtUnderlying = .ok cut ∧
      RatesComputed cut s.contract.rateParams ∧
      s' = (settled s t p seize cut totals).allocating .immediateLiquidityIndexHaircut ∧
      ms = liquidationMessages s.contract info p outgoing := by
  rw [liquidate_allocating_iff]
  constructor
  · rintro ⟨t, p, cut, outgoing, totals, htarget, hplan, hbook, hout, hrates, hs', hms⟩
    obtain ⟨cancelled, total, hcancelled, htotal, hcut⟩ :=
      (bookRepayment_immediate rfl (hwrite t p htarget hplan)).mp hbook
    exact ⟨t, p, total, outgoing, totals, cut,
      ⟨htarget, hplan, ⟨cancelled, hcancelled, htotal⟩, hout⟩, hcut, hrates, hs', hms⟩
  · rintro ⟨t, p, total, outgoing, totals, cut, h, hcut, hrates, hs', hms⟩
    obtain ⟨cancelled, hcancelled, htotal⟩ := h.cancelled
    have hbook := (bookRepayment_immediate
      (c := (s.allocating .immediateLiquidityIndexHaircut).contract) rfl
      (hwrite t p h.target h.plan)).mpr ⟨cancelled, total, hcancelled, htotal, hcut⟩
    exact ⟨t, p, cut, outgoing, totals, h.target, h.plan, hbook, h.sentOut, hrates, hs', hms⟩

/-- The reserve between the two messages of the deferred path. -/
def withLoss (t : LiquidationTarget) (p : LiquidationPlan) (total : Uint128) : ReserveStateV1 :=
  { t.reserve with totalScaledBorrow := total, deficitUnderlying := p.badDebtUnderlying }

/-- The first message of the deferred path. -/
theorem liquidate_deferred_iff {ms : List CosmosMsg}
    (hwrite : IsWriteOff deps s env info borrower seize)
    (hzero : s.reserve.deficitUnderlying.val = 0) :
    (∃ res, liquidate deps (s.allocating .deferredToDeficit) env info borrower seize =
        .ok (s', res) ∧ res.messages = ms) ↔
    ∃ t p total outgoing totals,
      WrittenOff deps s env info borrower seize t p total outgoing totals ∧
      RatesComputed (withLoss t p total) s.contract.rateParams ∧
      s' = (settled s t p seize (withLoss t p total) totals).allocating .deferredToDeficit ∧
      ms = liquidationMessages s.contract info p outgoing := by
  have hnone {t : LiquidationTarget}
      (htarget : liquidationTarget deps s env info borrower seize = .ok t) :
      t.reserve.deficitUnderlying.val = 0 := by
    rw [(liquidationTarget_spec htarget).accrued.deficitUnderlying]
    exact hzero
  rw [liquidate_allocating_iff]
  constructor
  · rintro ⟨t, p, r, outgoing, totals, htarget, hplan, hbook, hout, hrates, hs', hms⟩
    obtain ⟨cancelled, total, hcancelled, htotal, rfl⟩ :=
      (bookRepayment_deferred rfl (hwrite t p htarget hplan) (hnone htarget)).mp hbook
    exact ⟨t, p, total, outgoing, totals,
      ⟨htarget, hplan, ⟨cancelled, hcancelled, htotal⟩, hout⟩, hrates, hs', hms⟩
  · rintro ⟨t, p, total, outgoing, totals, h, hrates, hs', hms⟩
    obtain ⟨cancelled, hcancelled, htotal⟩ := h.cancelled
    have hbook := (bookRepayment_deferred (c := (s.allocating .deferredToDeficit).contract) rfl
      (hwrite t p h.target h.plan) (hnone h.target)).mpr
      ⟨cancelled, total, hcancelled, htotal, rfl⟩
    exact ⟨t, p, _, outgoing, totals, h.target, h.plan, hbook, h.sentOut, hrates, hs', hms⟩

/-- A pool that is up to date socializes its whole deficit. -/
theorem socializeDeficit_whole_iff {s₂ : PoolStorage} {owner : Addr} {maxAmount : Uint128}
    {ms : List CosmosMsg}
    (hstill : timeElapsedSeconds s.reserve.lastUpdatedAt env.blockTime = 0)
    (howner : s.ownership.owner = some owner) (hpos : 0 < s.reserve.deficitUnderlying.val)
    (hmax : s.reserve.deficitUnderlying.val ≤ maxAmount.val) :
    (∃ res, socializeDeficit s env ⟨owner, []⟩ maxAmount = .ok (s₂, res) ∧ res.messages = ms) ↔
    ∃ cut, applyProRataLiquidityIndexHaircut s.reserve s.reserve.deficitUnderlying = .ok cut ∧
      RatesComputed { cut with deficitUnderlying := 0 } s.contract.rateParams ∧
      s₂ = s.setReserveStateV1 { cut with deficitUnderlying := 0 } ∧ ms = [] := by
  have hamount : maxAmount.min s.reserve.deficitUnderlying = s.reserve.deficitUnderlying := by
    apply Uint.ext
    rw [Uint.min_val]
    omega
  have haccrual : updateReserveIndexes s env s.contract.rateParams = .ok (s, s.reserve) :=
    updateReserveIndexes_eq_ok.mpr ⟨AccruedTo.still hstill, rfl⟩
  have hcleared {cut : ReserveStateV1}
      (hcut : applyProRataLiquidityIndexHaircut s.reserve s.reserve.deficitUnderlying = .ok cut) :
      cut.deficitUnderlying.checkedSub s.reserve.deficitUnderlying = some 0 := by
    rw [Uint.checkedSub_eq_some, applyHaircut_frame hcut, Uint.val_zero, Nat.zero_add]
  unfold socializeDeficit Ownership.assertOwner
  dsimp only
  rw [haccrual]
  simp only [ok_bind, hamount, bind_eq_ok, ensure_eq_ok, exists_const, okOr_eq_ok, pure_eq_ok,
    Prod.mk.injEq]
  constructor
  · rintro ⟨res, ⟨-, -, -, -, cut, hcut, deficit, hdeficit, res', hres', rfl, rfl⟩, rfl⟩
    rw [hcleared hcut, Option.some.injEq] at hdeficit
    subst hdeficit
    exact ⟨cut, hcut, isOk_attachRates_iff.mp ⟨_, hres'⟩, rfl,
      by simpa using attachRates_messages hres'⟩
  · rintro ⟨cut, hcut, hrates, rfl, rfl⟩
    obtain ⟨res', hres'⟩ := isOk_attachRates_iff.mpr hrates
    refine ⟨res', ⟨howner, trivial, by omega, hpos, cut, hcut, 0, hcleared hcut, res', hres', rfl,
      rfl⟩, by simpa using attachRates_messages hres'⟩

/-- The pool `x` after the loss was taken off the lenders' index, and the coins `ms` sent. -/
def LossTaken (deps : Deps) (s : PoolStorage) (env : Env) (info : MessageInfo)
    (borrower : String) (seize : Amounts) (x : PoolStorage) (ms : List CosmosMsg) : Prop :=
  ∃ t p total outgoing totals cut,
    WrittenOff deps s env info borrower seize t p total outgoing totals ∧
    applyProRataLiquidityIndexHaircut { t.reserve with totalScaledBorrow := total }
      p.badDebtUnderlying = .ok cut ∧
    RatesComputed cut s.contract.rateParams ∧
    x = settled s t p seize cut totals ∧
    ms = liquidationMessages s.contract info p outgoing

/-- The second message of the deferred path. -/
theorem socialize_settled_iff {s₂ : PoolStorage} {owner : Addr} {maxAmount total : Uint128}
    {outgoing totals : Amounts} {ms : List CosmosMsg}
    (h : WrittenOff deps s env info borrower seize t p total outgoing totals)
    (hbad : p.badDebt = true) (howner : s.ownership.owner = some owner)
    (hmax : p.badDebtUnderlying.val ≤ maxAmount.val) :
    (∃ res, socializeDeficit
        ((settled s t p seize (withLoss t p total) totals).allocating .deferredToDeficit) env
        ⟨owner, []⟩ maxAmount = .ok (s₂, res) ∧ res.messages = ms) ↔
    ∃ cut, applyProRataLiquidityIndexHaircut (withLoss t p total) p.badDebtUnderlying = .ok cut ∧
      RatesComputed { cut with deficitUnderlying := 0 } s.contract.rateParams ∧
      s₂ = (settled s t p seize { cut with deficitUnderlying := 0 } totals).allocating
        .deferredToDeficit ∧ ms = [] := by
  have hreserve : ((settled s t p seize (withLoss t p total) totals).allocating
      .deferredToDeficit).reserve = withLoss t p total := settled_reserve
  have hparams : ((settled s t p seize (withLoss t p total) totals).allocating
      .deferredToDeficit).contract.rateParams = s.contract.rateParams := by
    show (settled s t p seize (withLoss t p total) totals).contract.rateParams = _
    rw [settled_contract]
  have howner' : ((settled s t p seize (withLoss t p total) totals).allocating
      .deferredToDeficit).ownership.owner = some owner := by
    show (settled s t p seize (withLoss t p total) totals).ownership.owner = _
    rw [settled_ownership]
    exact howner
  have hstill := (liquidationTarget_spec h.target).accrued.elapsed_eq_zero
  have hpos := h.loss_pos hbad
  rw [socializeDeficit_whole_iff (by rw [hreserve]; exact hstill) howner'
    (by rw [hreserve]; exact hpos) (by rw [hreserve]; exact hmax), hreserve, hparams]
  have hsaved (r : ReserveStateV1) :
      ((settled s t p seize (withLoss t p total) totals).allocating
        .deferredToDeficit).setReserveStateV1 r =
      (settled s t p seize r totals).allocating .deferredToDeficit := by
    have hset : (settled s t p seize (withLoss t p total) totals).setReserveStateV1 r =
        settled s t p seize r totals := settled_setReserve
    rw [← hset]
    rfl
  simp only [hsaved]
  rfl

/-- The deferred path, both messages. -/
theorem deferred_path_iff {s₂ : PoolStorage} {owner : Addr} {maxAmount : Uint128}
    {ms : List CosmosMsg} (hvalid : s.contract.rateParams.Valid)
    (hwrite : IsWriteOff deps s env info borrower seize)
    (hzero : s.reserve.deficitUnderlying.val = 0) (howner : s.ownership.owner = some owner)
    (hmax : ∀ s₁ res₁, liquidate deps (s.allocating .deferredToDeficit) env info borrower seize =
      .ok (s₁, res₁) → s₁.reserve.deficitUnderlying.val ≤ maxAmount.val) :
    (∃ s₁ res₁ res₂,
      liquidate deps (s.allocating .deferredToDeficit) env info borrower seize = .ok (s₁, res₁) ∧
      socializeDeficit s₁ env ⟨owner, []⟩ maxAmount = .ok (s₂, res₂) ∧
      ms = res₁.messages ++ res₂.messages) ↔
    ∃ x, LossTaken deps s env info borrower seize x ms ∧ s₂ = x.allocating .deferredToDeficit := by
  have hcovered {t : LiquidationTarget} {p : LiquidationPlan} {total : Uint128} {totals : Amounts}
      {res : Response} (hliquidate : liquidate deps (s.allocating .deferredToDeficit) env info
        borrower seize = .ok ((settled s t p seize (withLoss t p total) totals).allocating
          .deferredToDeficit, res)) : p.badDebtUnderlying.val ≤ maxAmount.val := by
    have hle := hmax _ res hliquidate
    have hreserve : ((settled s t p seize (withLoss t p total) totals).allocating
        .deferredToDeficit).reserve = withLoss t p total := settled_reserve
    rw [hreserve] at hle
    exact hle
  constructor
  · rintro ⟨s₁, res₁, res₂, hliquidate, hsocialize, rfl⟩
    obtain ⟨t, p, total, outgoing, totals, h, -, rfl, hms⟩ :=
      (liquidate_deferred_iff hwrite hzero).mp ⟨res₁, hliquidate, rfl⟩
    obtain ⟨cut, hcut, hrates, rfl, hnone⟩ := (socialize_settled_iff h
      (hwrite t p h.target h.plan) howner (hcovered hliquidate)).mp ⟨res₂, hsocialize, rfl⟩
    have hdeficit : t.reserve.deficitUnderlying = 0 := by
      apply Uint.ext
      rw [(liquidationTarget_spec h.target).accrued.deficitUnderlying, hzero, Uint.val_zero]
    have hcut' := applyHaircut_deficit 0 hcut
    refine ⟨_, ⟨t, p, total, outgoing, totals, _, h, ?_, hrates, rfl, ?_⟩, rfl⟩
    · rw [← hcut', ← hdeficit]
      rfl
    · rw [hnone, List.append_nil]
      exact hms
  · rintro ⟨x, ⟨t, p, total, outgoing, totals, cut, h, hcut, hrates, rfl, rfl⟩, rfl⟩
    have hbad := hwrite t p h.target h.plan
    have hdeficit : cut.deficitUnderlying = 0 := by
      apply Uint.ext
      rw [applyHaircut_frame hcut]
      show t.reserve.deficitUnderlying.val = _
      rw [(liquidationTarget_spec h.target).accrued.deficitUnderlying, hzero, Uint.val_zero]
    have hbooked := applyHaircut_deficit p.badDebtUnderlying hcut
    have hcut' : applyProRataLiquidityIndexHaircut (withLoss t p total) p.badDebtUnderlying =
        .ok { cut with deficitUnderlying := p.badDebtUnderlying } := hbooked
    -- The rates do not read the deficit, so the report of the second message is the one of `cut`.
    have hbetween : RatesComputed (withLoss t p total) s.contract.rateParams :=
      RatesComputed.before_haircut hvalid (h.loss_pos hbad) hcut' hrates
    obtain ⟨res₁, hliquidate, hms⟩ := (liquidate_deferred_iff hwrite hzero).mpr
      ⟨t, p, total, outgoing, totals, h, hbetween, rfl, rfl⟩
    have hcleared : { cut with deficitUnderlying := 0 } = cut := by rw [← hdeficit]
    obtain ⟨res₂, hsocialize, hnone⟩ := (socialize_settled_iff h hbad howner
      (hcovered hliquidate)).mpr ⟨_, hcut', hrates, rfl, rfl⟩
    refine ⟨_, res₁, res₂, hliquidate, ?_, ?_⟩
    · rw [hsocialize]
      show Except.ok ((settled s t p seize { cut with deficitUnderlying := 0 } totals).allocating _,
        res₂) = _
      rw [hcleared]
    · rw [hms, hnone, List.append_nil]

theorem immediate_path_iff {ms : List CosmosMsg}
    (hwrite : IsWriteOff deps s env info borrower seize) :
    (∃ res, liquidate deps (s.allocating .immediateLiquidityIndexHaircut) env info borrower
        seize = .ok (s', res) ∧ ms = res.messages) ↔
    ∃ x, LossTaken deps s env info borrower seize x ms ∧
      s' = x.allocating .immediateLiquidityIndexHaircut := by
  constructor
  · rintro ⟨res, hliquidate, rfl⟩
    obtain ⟨t, p, total, outgoing, totals, cut, h, hcut, hrates, rfl, hms⟩ :=
      (liquidate_immediate_iff hwrite).mp ⟨res, hliquidate, rfl⟩
    exact ⟨_, ⟨t, p, total, outgoing, totals, cut, h, hcut, hrates, rfl, hms⟩, rfl⟩
  · rintro ⟨x, ⟨t, p, total, outgoing, totals, cut, h, hcut, hrates, rfl, rfl⟩, rfl⟩
    obtain ⟨res, hliquidate, hms⟩ := (liquidate_immediate_iff hwrite).mpr
      ⟨t, p, total, outgoing, totals, cut, h, hcut, hrates, rfl, rfl⟩
    exact ⟨res, hliquidate, hms.symm⟩

end

/-! ## The agreement -/

/-- A liquidation needs a pool that is not paused, and nothing else of its state. -/
theorem execute_liquidate_iff {deps : Deps} {s : PoolStorage} {env : Env} {info : MessageInfo}
    {borrower : String} {seize : Amounts} {out : PoolStorage × Response} :
    execute deps s env info (.liquidate borrower seize) = .ok out ↔
      s.contract.operationalState ≠ .paused ∧
        liquidate deps s env info borrower seize = .ok out := by
  simp only [execute, bind_eq_ok, ensure_eq_ok, exists_const, dispatch]
  simp [ExecuteMsg.allowedWhenPaused, ExecuteMsg.isLendOrBorrow]

theorem execute_socializeDeficit_iff {deps : Deps} {s : PoolStorage} {env : Env}
    {info : MessageInfo} {maxAmount : Uint128} {out : PoolStorage × Response} :
    execute deps s env info (.socializeDeficit maxAmount) = .ok out ↔
      s.contract.operationalState ≠ .paused ∧ socializeDeficit s env info maxAmount = .ok out := by
  simp only [execute, bind_eq_ok, ensure_eq_ok, exists_const, dispatch]
  simp [ExecuteMsg.allowedWhenPaused, ExecuteMsg.isLendOrBorrow]

section

variable {deps deps' : Deps} {s : PoolStorage} {env : Env} {info : MessageInfo}
  {borrower : String} {seize : Amounts} {owner : Addr} {maxAmount : Uint128}

/-- The two ways succeed together, and then they send the same coins and leave the same
storage but for the setting itself.  This holds for either liquidation access. -/
theorem loss_allocations_agree (hreach : Reachable s)
    (hzero : s.reserve.deficitUnderlying.val = 0)
    (hwrite : IsWriteOff deps s env info borrower seize)
    (howner : s.ownership.owner = some owner)
    (hmax : ∀ s₁ res₁, execute deps (s.allocating .deferredToDeficit) env info
      (.liquidate borrower seize) = .ok (s₁, res₁) →
        s₁.reserve.deficitUnderlying.val ≤ maxAmount.val) :
    (IsOk (execute deps (s.allocating .immediateLiquidityIndexHaircut) env info
        (.liquidate borrower seize)) ↔
      ∃ s₁ res₁, execute deps (s.allocating .deferredToDeficit) env info
          (.liquidate borrower seize) = .ok (s₁, res₁) ∧
        IsOk (execute deps' s₁ env ⟨owner, []⟩ (.socializeDeficit maxAmount))) ∧
    ∀ s' res s₁ res₁ s₂ res₂,
      execute deps (s.allocating .immediateLiquidityIndexHaircut) env info
        (.liquidate borrower seize) = .ok (s', res) →
      execute deps (s.allocating .deferredToDeficit) env info (.liquidate borrower seize) =
        .ok (s₁, res₁) →
      execute deps' s₁ env ⟨owner, []⟩ (.socializeDeficit maxAmount) = .ok (s₂, res₂) →
      s₂ = s'.allocating .deferredToDeficit ∧ res.messages = res₁.messages ++ res₂.messages := by
  have hvalid := RateParamsV1.validate_spec hreach.rateParams_valid
  by_cases hpaused : s.contract.operationalState = .paused
  · -- A paused pool takes none of the messages.
    have hrefused (a : BadDebtLossAllocation) (out : PoolStorage × Response) :
        execute deps (s.allocating a) env info (.liquidate borrower seize) ≠ .ok out :=
      fun h => (execute_liquidate_iff.mp h).1 hpaused
    constructor
    · constructor
      · rintro ⟨out, h⟩
        exact absurd h (hrefused _ _)
      · rintro ⟨s₁, res₁, h, -⟩
        exact absurd h (hrefused _ _)
    · intro s' res s₁ res₁ s₂ res₂ h
      exact absurd h (hrefused _ _)
  · have hmax' (s₁ : PoolStorage) (res₁ : Response)
        (h : liquidate deps (s.allocating .deferredToDeficit) env info borrower seize =
          .ok (s₁, res₁)) : s₁.reserve.deficitUnderlying.val ≤ maxAmount.val :=
      hmax s₁ res₁ (execute_liquidate_iff.mpr ⟨hpaused, h⟩)
    have hdeferred (s₂ : PoolStorage) (ms : List CosmosMsg) :
        (∃ s₁ res₁ res₂,
          liquidate deps (s.allocating .deferredToDeficit) env info borrower seize =
            .ok (s₁, res₁) ∧
          socializeDeficit s₁ env ⟨owner, []⟩ maxAmount = .ok (s₂, res₂) ∧
          ms = res₁.messages ++ res₂.messages) ↔
        ∃ x, LossTaken deps s env info borrower seize x ms ∧
          s₂ = x.allocating .deferredToDeficit :=
      deferred_path_iff hvalid hwrite hzero howner hmax'
    constructor
    · constructor
      · rintro ⟨⟨s', res⟩, h⟩
        obtain ⟨x, htaken, -⟩ :=
          (immediate_path_iff hwrite).mp ⟨res, (execute_liquidate_iff.mp h).2, rfl⟩
        obtain ⟨s₁, res₁, res₂, hliquidate, hsocialize, -⟩ := (hdeferred _ _).mpr ⟨x, htaken, rfl⟩
        have hstate : s₁.contract.operationalState ≠ .paused := by
          obtain ⟨_, _, _, _, totals, -, -, rfl, -⟩ :=
            (liquidate_deferred_iff hwrite hzero).mp ⟨res₁, hliquidate, rfl⟩
          show (settled s _ _ seize _ totals).contract.operationalState ≠ _
          rw [settled_contract]
          exact hpaused
        exact ⟨s₁, res₁, execute_liquidate_iff.mpr ⟨hpaused, hliquidate⟩, _,
          execute_socializeDeficit_iff.mpr ⟨hstate, hsocialize⟩⟩
      · rintro ⟨s₁, res₁, h₁, ⟨s₂, res₂⟩, h₂⟩
        obtain ⟨x, htaken, -⟩ := (hdeferred _ _).mp ⟨s₁, res₁, res₂,
          (execute_liquidate_iff.mp h₁).2, (execute_socializeDeficit_iff.mp h₂).2, rfl⟩
        obtain ⟨res, hliquidate, -⟩ := (immediate_path_iff hwrite).mpr ⟨x, htaken, rfl⟩
        exact ⟨_, execute_liquidate_iff.mpr ⟨hpaused, hliquidate⟩⟩
    · intro s' res s₁ res₁ s₂ res₂ h h₁ h₂
      obtain ⟨x, htaken, hs'⟩ :=
        (immediate_path_iff hwrite).mp ⟨res, (execute_liquidate_iff.mp h).2, rfl⟩
      obtain ⟨s₁', res₁', res₂', hliquidate, hsocialize, hms⟩ :=
        (hdeferred _ _).mpr ⟨x, htaken, rfl⟩
      rw [(execute_liquidate_iff.mp h₁).2, Except.ok.injEq, Prod.mk.injEq] at hliquidate
      obtain ⟨rfl, rfl⟩ := hliquidate
      rw [(execute_socializeDeficit_iff.mp h₂).2, Except.ok.injEq, Prod.mk.injEq] at hsocialize
      obtain ⟨rfl, rfl⟩ := hsocialize
      rw [hs']
      exact ⟨rfl, hms⟩

end

namespace Demo

/-- Gold falls to one dollar, and all of Alice's gold is sold for 96 dollars. -/
def allocatedCrash (a : BadDebtLossAllocation) (s : PoolStorage) :
    ContractResult (PoolStorage × Response) :=
  execute (deps 1) (s.allocating a) (env 0) ⟨"liquidator", [⟨"usd", 96⟩]⟩
    (.liquidate "alice" ((∅ : Amounts).insert "gold" 100))

/-- The plan writes off debt, the deficit is 404, and the haircut leaves 596 of 1000. -/
def allocationCheck (s : PoolStorage) : Bool :=
  decide (s.reserve.deficitUnderlying.val = 0) && decide (s.ownership.owner = some "owner") &&
    (match liquidationTarget (deps 1) s (env 0) ⟨"liquidator", [⟨"usd", 96⟩]⟩ "alice"
        ((∅ : Amounts).insert "gold" 100) with
      | .ok t =>
        match planLiquidation s.ownership s.contract ⟨"liquidator", [⟨"usd", 96⟩]⟩ t
            ((∅ : Amounts).insert "gold" 100) with
        | .ok p => p.badDebt
        | .error _ => true
      | .error _ => true) &&
    (match allocatedCrash .deferredToDeficit s with
      | .ok (s₁, _) => decide (s₁.reserve.deficitUnderlying.val = 404)
      | .error _ => false) &&
    (match allocatedCrash .immediateLiquidityIndexHaircut s with
      | .ok (s', _) => decide (s'.reserve.liquidityIndex.atomics = 596000000000000000)
      | .error _ => false)

theorem allocation_ok :
    replayCheck (deps 10) (env 0) ⟨"owner", []⟩ msg opening allocationCheck = true := by
  decide +kernel

end Demo

/-- Alice's position is written off in both ways, and the lenders keep 596 of 1000. -/
theorem loss_allocations_agree_crash :
    ∃ s s' s₁ s₂ res res₁ res₂, Reachable s ∧
      Demo.allocatedCrash .immediateLiquidityIndexHaircut s = .ok (s', res) ∧
      Demo.allocatedCrash .deferredToDeficit s = .ok (s₁, res₁) ∧
      execute (Demo.deps 1) s₁ (Demo.env 0) ⟨"owner", []⟩ (.socializeDeficit 404) =
        .ok (s₂, res₂) ∧
      s₁.reserve.deficitUnderlying.val = 404 ∧
      s₂.reserve.liquidityIndex.atomics = 596000000000000000 ∧
      s₂ = s'.allocating .deferredToDeficit ∧ res.messages = res₁.messages ++ res₂.messages := by
  obtain ⟨s₀, ts, s, hdeployed, run, -, hcheck⟩ := exists_run Demo.allocation_ok
  have hreach : Reachable s := ⟨_, s₀, ts, hdeployed, run⟩
  simp only [Demo.allocationCheck, Bool.and_eq_true, decide_eq_true_iff] at hcheck
  obtain ⟨⟨⟨⟨hzero, howner⟩, hplan⟩, hdeferred⟩, himmediate⟩ := hcheck
  have hwrite : IsWriteOff (Demo.deps 1) s (Demo.env 0) ⟨"liquidator", [⟨"usd", 96⟩]⟩ "alice"
      ((∅ : Amounts).insert "gold" 100) := by
    intro t p ht hp
    rw [ht] at hplan
    dsimp only at hplan
    rw [hp] at hplan
    exact hplan
  split at hdeferred
  · rename_i s₁ res₁ h₁
    split at himmediate
    · rename_i s' res h
      have hcovered (x : PoolStorage) (y : Response)
          (hxy : Demo.allocatedCrash .deferredToDeficit s = .ok (x, y)) :
          x.reserve.deficitUnderlying.val ≤ (404 : Uint128).val := by
        have hsame := Except.ok.inj (h₁.symm.trans hxy)
        rw [← (Prod.mk.inj hsame).1]
        exact Nat.le_of_eq (of_decide_eq_true hdeferred)
      obtain ⟨hboth, hagree⟩ := loss_allocations_agree hreach hzero hwrite howner hcovered
      obtain ⟨x, y, hxy, ⟨s₂, res₂⟩, h₂⟩ := hboth.mp ⟨_, h⟩
      have hsame := Except.ok.inj (h₁.symm.trans hxy)
      rw [← (Prod.mk.inj hsame).1] at h₂
      obtain ⟨hs₂, hmessages⟩ := hagree s' res s₁ res₁ s₂ res₂ h h₁ h₂
      refine ⟨s, s', s₁, s₂, res, res₁, res₂, hreach, h, h₁, h₂, of_decide_eq_true hdeferred, ?_,
        hs₂, hmessages⟩
      rw [hs₂]
      exact of_decide_eq_true himmediate
    · cases himmediate
  · cases hdeferred

end DemocratizedPrime
