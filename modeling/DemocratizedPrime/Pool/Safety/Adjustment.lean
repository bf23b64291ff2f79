import DemocratizedPrime.Pool.Records

/-!
# Adjustments of an offer

A borrower changes a directed-sale offer by signed adjustments.

* `adjustLoop` is the loop over the adjustments: each asset ends at what was listed plus
  its adjustment, and never below nothing.
* `OfferAdjusted` is what a successful adjustment does to the offer, and
  `adjustDirectedCollateralSale_adjusted` that the handler does it.
* `adjust_succeeds`: an adjustment that adds nothing is never refused.
-/

namespace DemocratizedPrime

open Result TreeMap

variable {s s' : PoolStorage} {e : Event} {b : Addr}

/-- What an adjustment asks for: nothing for an asset that it does not name. -/
def deltaOf (adjustments : Std.ExtTreeMap String Int128) (asset : String) : Int :=
  (adjustments[asset]?.map (·.val)).getD 0

/-- What the borrower offers of an asset, which is nothing without an offer. -/
def PoolStorage.offered (store : PoolStorage) (borrower : Addr) (asset : String) : Nat :=
  (amountOf (((store.getDirectedSaleOffer borrower).map (·.amounts)).getD ∅) asset).val

/-! ## The loop over the adjustments -/

/-- What is listed of an asset after its adjustment, and what is reported of it. -/
structure Adjusted (contract : ContractStateV1) (balances : Amounts) (asset : String)
    (delta : Int) (listed left : Nat) (applied : Option Int) : Prop where
  clamped : (left : Int) = max 0 (listed + delta)
  applied_eq : applied = if left = listed then none else some ((left : Int) - listed)
  increase : 0 < delta →
    contract.supports asset = true ∧ left ≤ (amountOf balances asset).val

variable {contract : ContractStateV1} {balances before : Amounts} {acc acc' : SaleAdjustment}

/-- One round changes the asset that it is about, and leaves the others alone. -/
structure AdjustRound (contract : ContractStateV1) (balances : Amounts) (asset : String)
    (delta : Int) (acc acc' : SaleAdjustment) : Prop where
  adjusted : acc.applied[asset]? = none →
    Adjusted contract balances asset delta (amountOf acc.outstanding asset).val
      (amountOf acc'.outstanding asset).val (acc'.applied[asset]?.map (·.val))
  others : ∀ a, a ≠ asset →
    amountOf acc'.outstanding a = amountOf acc.outstanding a ∧ acc'.applied[a]? = acc.applied[a]?
  noNull : NoNull Uint.isZero acc.outstanding → NoNull Uint.isZero acc'.outstanding

theorem increaseOffer_round {asset : String} {delta : Int128} (hpos : 0 < delta.val)
    (h : increaseOffer contract balances acc asset delta = .ok acc') :
    AdjustRound contract balances asset delta.val acc acc' := by
  simp only [increaseOffer, bind_eq_ok, ensure_eq_ok, exists_const, okOr_eq_ok,
    Uint.ofNat?_eq_some, pure_eq_ok] at h
  obtain ⟨hsupported, new, hnew, hle, rfl⟩ := h
  refine ⟨fun _ => ?_, fun a ha => ⟨?_, ?_⟩, fun hz => hz.insert ?_⟩
  · dsimp only
    rw [amountOf_insert, if_pos rfl, getElem?_insert_eq, if_pos rfl]
    refine ⟨by omega, ?_, fun _ => ⟨hsupported, hle⟩⟩
    rw [if_neg (by omega)]
    show some delta.val = _
    congr 1
    omega
  · dsimp only
    rw [amountOf_insert, if_neg (Ne.symm ha)]
  · dsimp only
    rw [getElem?_insert_eq, if_neg (Ne.symm ha)]
  · simp only [Uint.isZero, beq_eq_false_iff_ne]
    omega

theorem decreaseOffer_round {asset : String} {delta : Int128} (hneg : delta.val < 0) :
    AdjustRound contract balances asset delta.val acc (decreaseOffer acc asset delta) := by
  unfold decreaseOffer
  by_cases htake : min (amountOf acc.outstanding asset).val (-delta.val).toNat = 0
  · rw [if_pos htake]
    refine ⟨fun hnew => ?_, fun a ha => ⟨?_, rfl⟩, fun hz => hz.erase asset⟩
    · dsimp only
      rw [amountOf_erase, if_pos rfl, hnew, Uint.val_zero]
      exact ⟨by omega, by rw [if_pos (by omega)]; rfl, fun h => by omega⟩
    · dsimp only
      rw [amountOf_erase, if_neg (Ne.symm ha)]
  · rw [if_neg htake]
    refine ⟨fun _ => ?_, fun a ha => ⟨?_, ?_⟩, fun hz => ?_⟩
    · dsimp only
      rw [getElem?_insert_eq, if_pos rfl]
      split
      · rw [amountOf_erase, if_pos rfl, Uint.val_zero]
        refine ⟨by omega, ?_, fun h => by omega⟩
        rw [if_neg (by omega)]
        show some (-_ : Int) = _
        congr 1
        omega
      · rw [amountOf_insert, if_pos rfl]
        dsimp only
        refine ⟨by omega, ?_, fun h => by omega⟩
        rw [if_neg (by omega)]
        show some (-_ : Int) = _
        congr 1
        omega
    · dsimp only
      split
      · rw [amountOf_erase, if_neg (Ne.symm ha)]
      · rw [amountOf_insert, if_neg (Ne.symm ha)]
    · dsimp only
      rw [getElem?_insert_eq, if_neg (Ne.symm ha)]
    · dsimp only
      split
      · exact hz.erase asset
      · rename_i hleft
        exact hz.insert (by simpa [Uint.isZero] using hleft)

theorem adjustEntry_round {entry : String × Int128} (hne : entry.2.val ≠ 0)
    (h : adjustEntry contract balances acc entry = .ok acc') :
    AdjustRound contract balances entry.1 entry.2.val acc acc' := by
  simp only [adjustEntry, bind_eq_ok, ensure_eq_ok, exists_const] at h
  obtain ⟨-, h⟩ := h
  split at h
  · rename_i hpos
    exact increaseOffer_round hpos h
  · rename_i hpos
    rw [← pure_eq_ok.mp h]
    exact decreaseOffer_round (by omega)

/-- Since no asset is named twice, the loop settles each of them for itself. -/
theorem adjustLoop {l : List (String × Int128)} (hkeys : (l.map (·.1)).Nodup)
    (hne : ∀ x ∈ l, x.2.val ≠ 0)
    (h : l.foldlM (adjustEntry contract balances) ⟨before, ∅⟩ = .ok acc) :
    (∀ x ∈ l, Adjusted contract balances x.1 x.2.val (amountOf before x.1).val
        (amountOf acc.outstanding x.1).val (acc.applied[x.1]?.map (·.val))) ∧
      (∀ a, (∀ x ∈ l, x.1 ≠ a) →
        amountOf acc.outstanding a = amountOf before a ∧ acc.applied[a]? = none) ∧
      (NoNull Uint.isZero before → NoNull Uint.isZero acc.outstanding) := by
  have hloop := foldlM_ok_induct
    (fun done (b : SaleAdjustment) => (done.map (·.1)).Nodup → (∀ x ∈ done, x.2.val ≠ 0) →
      (∀ x ∈ done, Adjusted contract balances x.1 x.2.val (amountOf before x.1).val
          (amountOf b.outstanding x.1).val (b.applied[x.1]?.map (·.val))) ∧
        (∀ a, (∀ x ∈ done, x.1 ≠ a) →
          amountOf b.outstanding a = amountOf before a ∧ b.applied[a]? = none) ∧
        (NoNull Uint.isZero before → NoNull Uint.isZero b.outstanding))
    (fun done entry b b' hb hstep hkeys hne => by
      rw [List.map_append, List.nodup_append] at hkeys
      obtain ⟨hdone, -, hdistinct⟩ := hkeys
      obtain ⟨hadjusted, hothers, hnull⟩ :=
        hb hdone fun x hx => hne x (List.mem_append_left _ hx)
      have round := adjustEntry_round (hne entry (by simp)) hstep
      have hnew : ∀ x ∈ done, x.1 ≠ entry.1 := fun x hx =>
        hdistinct x.1 (List.mem_map_of_mem hx) entry.1 (by simp)
      obtain ⟨hbefore, hnone⟩ := hothers entry.1 hnew
      refine ⟨fun x hx => ?_, fun a ha => ?_, fun hz => round.noNull (hnull hz)⟩
      · rcases List.mem_append.mp hx with hold | hlast
        · obtain ⟨hamount, happlied⟩ := round.others x.1 (hnew x hold)
          rw [hamount, happlied]
          exact hadjusted x hold
        · rw [List.mem_singleton.mp hlast, ← hbefore]
          exact round.adjusted hnone
      · obtain ⟨hamount, happlied⟩ := round.others a (Ne.symm (ha entry (by simp)))
        rw [hamount, happlied]
        exact hothers a fun x hx => ha x (List.mem_append_left _ hx))
    (fun _ _ => ⟨by simp, fun a _ => ⟨rfl, Std.ExtTreeMap.getElem?_empty⟩, id⟩) h
  exact hloop hkeys hne

theorem getElem?_normalizeAdjustments (adjustments : Std.ExtTreeMap String Int128)
    (a : String) : (normalizeAdjustments adjustments)[a]? =
      (adjustments[a]?).filter fun delta => delta.val != 0 := by
  rw [normalizeAdjustments, Std.ExtTreeMap.getElem?_filter']

/-- The adjustments without zeros ask for the same. -/
theorem deltaOf_normalizeAdjustments (adjustments : Std.ExtTreeMap String Int128) (a : String) :
    deltaOf (normalizeAdjustments adjustments) a = deltaOf adjustments a := by
  unfold deltaOf
  rw [getElem?_normalizeAdjustments]
  cases adjustments[a]? with
  | none => rfl
  | some delta =>
    by_cases hz : delta.val = 0
    · simp [Option.filter, hz]
    · simp [Option.filter, hz]

/-- The loop settles every asset, named or not. -/
theorem adjustLoop_all {adjustments : Std.ExtTreeMap String Int128}
    (h : (normalizeAdjustments adjustments).toList.foldlM (adjustEntry contract balances)
      ⟨before, ∅⟩ = .ok acc) :
    (∀ a, Adjusted contract balances a (deltaOf adjustments a) (amountOf before a).val
        (amountOf acc.outstanding a).val (acc.applied[a]?.map (·.val))) ∧
      (NoNull Uint.isZero before → NoNull Uint.isZero acc.outstanding) := by
  have hne : ∀ x ∈ (normalizeAdjustments adjustments).toList, x.2.val ≠ 0 := by
    intro x hx
    have hget := Std.ExtTreeMap.mem_toList_iff_getElem?_eq_some.mp hx
    rw [getElem?_normalizeAdjustments, Option.filter_eq_some_iff] at hget
    simpa using hget.2
  obtain ⟨hnamed, hothers, hnull⟩ := adjustLoop (nodup_keys_toList _) hne h
  refine ⟨fun a => ?_, hnull⟩
  rw [← deltaOf_normalizeAdjustments]
  cases hget : (normalizeAdjustments adjustments)[a]? with
  | none =>
    have hunnamed : ∀ x ∈ (normalizeAdjustments adjustments).toList, x.1 ≠ a := by
      rintro x hx rfl
      rw [Std.ExtTreeMap.mem_toList_iff_getElem?_eq_some.mp hx] at hget
      cases hget
    obtain ⟨hamount, happlied⟩ := hothers a hunnamed
    have hzero : deltaOf (normalizeAdjustments adjustments) a = 0 := by
      rw [deltaOf, hget]
      rfl
    rw [hamount, happlied, hzero]
    exact ⟨by omega, by rw [if_pos rfl]; rfl, fun h => by omega⟩
  | some delta =>
    have hdelta : deltaOf (normalizeAdjustments adjustments) a = delta.val := by
      rw [deltaOf, hget]
      rfl
    rw [hdelta]
    exact hnamed (a, delta) (Std.ExtTreeMap.mem_toList_iff_getElem?_eq_some.mpr hget)

/-! ## An adjustment -/

/-- The adjustments name no positive or negative amount exactly when they cancel the offer. -/
theorem normalizeAdjustments_isEmpty (adjustments : Std.ExtTreeMap String Int128) :
    (normalizeAdjustments adjustments).isEmpty = true ↔ ∀ a, deltaOf adjustments a = 0 := by
  constructor
  · intro hempty a
    rw [← deltaOf_normalizeAdjustments, Std.ExtTreeMap.isEmpty_iff.mp hempty]
    rfl
  · intro hzero
    refine Std.ExtTreeMap.isEmpty_iff.mpr (Std.ExtTreeMap.ext_getElem? fun a => ?_)
    rw [getElem?_normalizeAdjustments, Std.ExtTreeMap.getElem?_empty, Option.filter_eq_none_iff]
    intro delta hget
    have hdelta := hzero a
    rw [deltaOf, hget] at hdelta
    simpa using hdelta

theorem any_increase_iff (adjustments : Std.ExtTreeMap String Int128) :
    ((normalizeAdjustments adjustments).toList.any fun entry => decide (0 < entry.2.val)) = true ↔
      ∃ a, 0 < deltaOf adjustments a := by
  rw [List.any_eq_true]
  constructor
  · rintro ⟨⟨a, delta⟩, hmem, hpos⟩
    have hget := Std.ExtTreeMap.mem_toList_iff_getElem?_eq_some.mp hmem
    refine ⟨a, ?_⟩
    rw [← deltaOf_normalizeAdjustments, deltaOf, hget]
    exact of_decide_eq_true hpos
  · rintro ⟨a, hpos⟩
    rw [← deltaOf_normalizeAdjustments, deltaOf] at hpos
    cases hget : (normalizeAdjustments adjustments)[a]? with
    | none =>
      rw [hget] at hpos
      exact absurd hpos (Int.lt_irrefl 0)
    | some delta =>
      rw [hget] at hpos
      exact ⟨(a, delta), Std.ExtTreeMap.mem_toList_iff_getElem?_eq_some.mpr hget,
        decide_eq_true hpos⟩

/-- What a successful adjustment of the sender's offer does. -/
structure OfferAdjusted (s : PoolStorage) (e : Event)
    (adjustments : Std.ExtTreeMap String Int128) (expiresAt : Timestamp) (version : Uint64)
    (s' : PoolStorage) : Prop where
  next : version.val = (s.getDirectedSaleVersion e.info.sender).val + 1
  stored : s'.getDirectedSaleVersion e.info.sender = version
  cancelled : (∀ a, deltaOf adjustments a = 0) →
    s'.getDirectedSaleOffer e.info.sender = none
  amounts : (∃ a, deltaOf adjustments a ≠ 0) → ∀ a,
    (s'.offered e.info.sender a : Int) = max 0 (s.offered e.info.sender a + deltaOf adjustments a)
  reported : (∃ a, deltaOf adjustments a ≠ 0) → ∃ applied shown,
    e.response = adjustResponse e.info.sender applied shown version ∧
    ∀ a, applied[a]?.map (·.val) =
      if s'.offered e.info.sender a = s.offered e.info.sender a then none
      else some ((s'.offered e.info.sender a : Int) - s.offered e.info.sender a)
  kept : (∃ a, deltaOf adjustments a ≠ 0) → (∀ a, deltaOf adjustments a ≤ 0) →
    ∀ offer', s'.getDirectedSaleOffer e.info.sender = some offer' →
      ∃ offer, s.getDirectedSaleOffer e.info.sender = some offer ∧
        offer'.expiresAt = offer.expiresAt
  increased : ∀ a, 0 < deltaOf adjustments a →
    0 < (s.getScaledBorrow e.info.sender).val ∧
      e.env.blockTime.nanos.val < expiresAt.nanos.val ∧
      s.contract.supports a = true ∧
      s'.offered e.info.sender a ≤ (amountOf (s.getBorrowerCollateral e.info.sender) a).val ∧
      ∀ offer', s'.getDirectedSaleOffer e.info.sender = some offer' → offer'.expiresAt = expiresAt

/-- What a save of the amounts leaves stored: no offer when nothing is listed any more. -/
structure OfferSaved (s : PoolStorage) (b : Addr) (outstanding : Amounts)
    (expiry : Option Timestamp) (s' : PoolStorage) : Prop where
  offer : s'.getDirectedSaleOffer b =
    if outstanding.isEmpty then none else expiry.map fun t => ⟨outstanding, t⟩
  expiry : outstanding.isEmpty = false → expiry.isSome = true

theorem OfferSaved.offered {outstanding : Amounts} {expiry : Option Timestamp}
    (h : OfferSaved s b outstanding expiry s') (a : String) :
    s'.offered b a = (amountOf outstanding a).val := by
  unfold PoolStorage.offered
  rw [h.offer]
  cases hempty : outstanding.isEmpty with
  | true =>
    rw [Std.ExtTreeMap.isEmpty_iff.mp hempty]
    rfl
  | false =>
    obtain ⟨t, ht⟩ := Option.isSome_iff_exists.mp (h.expiry hempty)
    rw [ht]
    rfl

theorem getDirectedSaleOffer_cleared (s : PoolStorage) (b : Addr) (version : Uint64) :
    ((s.clearDirectedSaleOffer b).setDirectedSaleVersion b version).getDirectedSaleOffer b =
      none :=
  (getElem?_erase_eq _ _ _).trans (if_pos rfl)

theorem getDirectedSaleOffer_saved (s : PoolStorage) (b : Addr) (offer : DirectedSaleOfferV1)
    (version : Uint64) :
    ((s.setDirectedSaleOffer b offer).setDirectedSaleVersion b version).getDirectedSaleOffer b =
      some offer :=
  (getElem?_insert_eq _ _ _ _).trans (if_pos rfl)

theorem getDirectedSaleVersion_set (s : PoolStorage) (b : Addr) (version : Uint64) :
    (s.setDirectedSaleVersion b version).getDirectedSaleVersion b = version := by
  show ((s.directedSaleVersion.insert b version)[b]?).getD 0 = version
  rw [getElem?_insert_eq, if_pos rfl]
  rfl

/-- The handler, in the terms of the loop.  It cancels the offer, or saves what the loop
leaves outstanding. -/
theorem adjust_cases {env : Env} {info : MessageInfo}
    {adjustments : Std.ExtTreeMap String Int128} {expiresAt : Timestamp} {version : Uint64}
    {res : Response}
    (h : adjustDirectedCollateralSale s env info adjustments expiresAt version = .ok (s', res)) :
    version.val = (s.getDirectedSaleVersion info.sender).val + 1 ∧
      s'.getDirectedSaleVersion info.sender = version ∧
      (((∀ a, deltaOf adjustments a = 0) ∧ s'.getDirectedSaleOffer info.sender = none) ∨
        (¬ (∀ a, deltaOf adjustments a = 0)) ∧ ∃ (acc : SaleAdjustment) (any : Bool)
          (expiry : Option Timestamp) (shown : String),
          (any = true ↔ ∃ a, 0 < deltaOf adjustments a) ∧
          checkIncreaseAllowed s env info.sender any expiresAt = .ok () ∧
          (normalizeAdjustments adjustments).toList.foldlM
            (adjustEntry s.contract (s.getBorrowerCollateral info.sender))
            ⟨((s.getDirectedSaleOffer info.sender).map (·.amounts)).getD ∅, ∅⟩ = .ok acc ∧
          OfferSaved s info.sender acc.outstanding expiry s' ∧
          (∀ t, expiry = some t →
            adjustedExpiry any expiresAt (s.getDirectedSaleOffer info.sender) = .ok t) ∧
          res = adjustResponse info.sender acc.applied shown version) := by
  simp only [adjustDirectedCollateralSale, bind_eq_ok, ensure_eq_ok, exists_const, okOr_eq_ok,
    Uint.checkedAdd_eq_some] at h
  obtain ⟨-, expected, hexpected, rfl, h⟩ := h
  refine ⟨hexpected, ?_⟩
  split at h
  · rename_i hempty
    cases h
    exact ⟨getDirectedSaleVersion_set _ _ _,
      Or.inl ⟨(normalizeAdjustments_isEmpty _).mp hempty, getDirectedSaleOffer_cleared _ _ _⟩⟩
  · rename_i hempty
    rw [normalizeAdjustments_isEmpty] at hempty
    simp only [bind_eq_ok] at h
    obtain ⟨_, hallowed, acc, hloop, h⟩ := h
    split at h
    · rename_i hnone
      cases h
      refine ⟨getDirectedSaleVersion_set _ _ _, Or.inr ⟨hempty, acc, _, none, "0",
        any_increase_iff adjustments, hallowed, hloop, ⟨?_, fun hsome => ?_⟩, fun t ht => ?_, rfl⟩⟩
      · rw [if_pos hnone, getDirectedSaleOffer_cleared]
      · rw [hnone] at hsome
        cases hsome
      · cases ht
    · rename_i hsome
      simp only [bind_eq_ok, pure_eq_ok, Prod.mk.injEq] at h
      obtain ⟨expiry, hexpiry, rfl, rfl⟩ := h
      refine ⟨getDirectedSaleVersion_set _ _ _, Or.inr ⟨hempty, acc, _, some expiry, _,
        any_increase_iff adjustments, hallowed, hloop, ⟨?_, fun _ => rfl⟩, fun t ht => ?_, rfl⟩⟩
      · rw [if_neg hsome, getDirectedSaleOffer_saved]
        rfl
      · cases ht
        exact hexpiry

theorem checkIncreaseAllowed_ok {env : Env} {any : Bool} {expiresAt : Timestamp} {u : Unit}
    (h : checkIncreaseAllowed s env b any expiresAt = .ok u) (hany : any = true) :
    env.blockTime.nanos.val < expiresAt.nanos.val ∧ 0 < (s.getScaledBorrow b).val := by
  rw [checkIncreaseAllowed, if_pos hany] at h
  simpa only [bind_eq_ok, ensure_eq_ok, exists_const] using h

theorem adjustDirectedCollateralSale_adjusted {adjustments : Std.ExtTreeMap String Int128}
    {expiresAt : Timestamp} {version : Uint64}
    (h : adjustDirectedCollateralSale s e.env e.info adjustments expiresAt version =
      .ok (s', e.response)) : OfferAdjusted s e adjustments expiresAt version s' := by
  obtain ⟨hnext, hstored, ⟨hzero, hnone⟩ | ⟨hsome, acc, any, expiry, shown, hany, hallowed,
    hloop, hsaved, hexpiry, hresponse⟩⟩ := adjust_cases h
  · have hnot : ¬ ∃ a, deltaOf adjustments a ≠ 0 := fun ⟨a, ha⟩ => ha (hzero a)
    exact ⟨hnext, hstored, fun _ => hnone, fun h => (hnot h).elim, fun h => (hnot h).elim,
      fun h => (hnot h).elim, fun a ha => by
        rw [hzero a] at ha
        exact absurd ha (Int.lt_irrefl 0)⟩
  · obtain ⟨hadjusted, -⟩ := adjustLoop_all hloop
    have hdeadline : ∀ offer', s'.getDirectedSaleOffer e.info.sender = some offer' →
        adjustedExpiry any expiresAt (s.getDirectedSaleOffer e.info.sender) =
          .ok offer'.expiresAt := by
      intro offer' hoffer
      rw [hsaved.offer] at hoffer
      split at hoffer
      · cases hoffer
      · rw [Option.map_eq_some_iff] at hoffer
        obtain ⟨t, ht, rfl⟩ := hoffer
        exact hexpiry t ht
    refine ⟨hnext, hstored, fun hzero => (hsome hzero).elim, fun _ a => ?_, fun _ => ?_,
      fun _ hle offer' hoffer => ?_, fun a ha => ?_⟩
    · rw [hsaved.offered]
      exact (hadjusted a).clamped
    · refine ⟨acc.applied, shown, hresponse, fun a => ?_⟩
      rw [hsaved.offered]
      exact (hadjusted a).applied_eq
    · have hnone : any = false := by
        rw [Bool.eq_false_iff]
        intro htrue
        obtain ⟨a, ha⟩ := hany.mp htrue
        exact absurd (hle a) (Int.not_le.mpr ha)
      have hkept := hdeadline offer' hoffer
      rw [hnone, adjustedExpiry, if_neg Bool.false_ne_true, okOr_eq_ok,
        Option.map_eq_some_iff] at hkept
      obtain ⟨offer, hoffer, heq⟩ := hkept
      exact ⟨offer, hoffer, heq.symm⟩
    · have htrue : any = true := hany.mpr ⟨a, ha⟩
      obtain ⟨htime, hdebt⟩ := checkIncreaseAllowed_ok hallowed htrue
      obtain ⟨hsupported, hle⟩ := (hadjusted a).increase ha
      refine ⟨hdebt, htime, hsupported, ?_, fun offer' hoffer => ?_⟩
      · rw [hsaved.offered]
        exact hle
      · have hnew := hdeadline offer' hoffer
        rw [htrue, adjustedExpiry, if_pos rfl, pure_eq_ok] at hnew
        exact hnew.symm

/-! ## Cancelling and decreasing always work -/

theorem any_increase_eq_false {adjustments : Std.ExtTreeMap String Int128}
    (hle : ∀ a, deltaOf adjustments a ≤ 0) :
    ((normalizeAdjustments adjustments).toList.any fun entry => decide (0 < entry.2.val)) =
      false := by
  rw [Bool.eq_false_iff]
  intro htrue
  obtain ⟨a, ha⟩ := (any_increase_iff adjustments).mp htrue
  exact absurd (hle a) (Int.not_le.mpr ha)

/-- A round that adds nothing succeeds. -/
theorem adjustEntry_decrease (acc : SaleAdjustment) {entry : String × Int128}
    (hle : entry.2.val ≤ 0) (hmin : entry.2.val ≠ -2 ^ 127) :
    adjustEntry contract balances acc entry = .ok (decreaseOffer acc entry.1 entry.2) := by
  simp only [adjustEntry, bind_eq_ok, ensure_eq_ok, exists_const]
  refine ⟨hmin, ?_⟩
  rw [if_neg (Int.not_lt.mpr hle)]
  rfl

/-- So does a loop that adds nothing. -/
theorem exists_adjustLoop {adjustments : Std.ExtTreeMap String Int128}
    (hdeltas : ∀ a, deltaOf adjustments a ≤ 0 ∧ deltaOf adjustments a ≠ -2 ^ 127)
    (acc : SaleAdjustment) :
    ∃ acc', (normalizeAdjustments adjustments).toList.foldlM (adjustEntry contract balances) acc =
      .ok acc' := by
  apply exists_foldlM_ok
  intro acc entry hmem
  have hdelta : deltaOf adjustments entry.1 = entry.2.val := by
    rw [← deltaOf_normalizeAdjustments, deltaOf,
      Std.ExtTreeMap.mem_toList_iff_getElem?_eq_some.mp hmem]
    rfl
  obtain ⟨hle, hmin⟩ := hdeltas entry.1
  rw [hdelta] at hle hmin
  exact ⟨_, adjustEntry_decrease acc hle hmin⟩

/-- What is outstanding after a decrease was outstanding before, so there is a deadline to
keep. -/
theorem exists_adjustedExpiry {adjustments : Std.ExtTreeMap String Int128}
    (expiresAt : Timestamp) (hle : ∀ a, deltaOf adjustments a ≤ 0)
    (hloop : (normalizeAdjustments adjustments).toList.foldlM (adjustEntry contract balances)
      ⟨((s.getDirectedSaleOffer b).map (·.amounts)).getD ∅, ∅⟩ = .ok acc)
    (hsome : acc.outstanding.isEmpty = false) :
    ∃ t, adjustedExpiry false expiresAt (s.getDirectedSaleOffer b) = .ok t := by
  obtain ⟨hadjusted, hnull⟩ := adjustLoop_all hloop
  cases hoffer : s.getDirectedSaleOffer b with
  | some offer => exact ⟨offer.expiresAt, rfl⟩
  | none =>
    rw [hoffer] at hadjusted hnull
    have hempty : acc.outstanding.isEmpty = true := by
      refine (isEmpty_iff_amountOf (hnull (noNull_empty _))).mpr fun a => ?_
      have hclamped := (hadjusted a).clamped
      have hdown := hle a
      have hbefore : (amountOf (((none : Option DirectedSaleOfferV1).map
          (·.amounts)).getD ∅) a).val = 0 := by
        rw [amountOf]
        rfl
      omega
    rw [hempty] at hsome
    cases hsome

/-- An adjustment in its turn that adds nothing succeeds. -/
theorem adjust_succeeds {deps : Deps} {env : Env} {info : MessageInfo}
    {adjustments : Std.ExtTreeMap String Int128} {expiresAt : Timestamp} {version : Uint64}
    (hstate : s.contract.operationalState ≠ .paused) (hfunds : info.funds = [])
    (hversion : version.val = (s.getDirectedSaleVersion info.sender).val + 1)
    (hdeltas : ∀ a, deltaOf adjustments a ≤ 0 ∧ deltaOf adjustments a ≠ -2 ^ 127) :
    ∃ s' res, execute deps s env info
      (.adjustDirectedCollateralSale adjustments expiresAt version) = .ok (s', res) := by
  have hle : ∀ a, deltaOf adjustments a ≤ 0 := fun a => (hdeltas a).1
  obtain ⟨acc, hloop⟩ := exists_adjustLoop hdeltas
    ⟨((s.getDirectedSaleOffer info.sender).map (·.amounts)).getD ∅, ∅⟩
  have hnext : ((s.getDirectedSaleVersion info.sender).checkedAdd 1) = some version :=
    Uint.checkedAdd_eq_some.mpr hversion
  simp only [execute, dispatch, adjustDirectedCollateralSale, bind_eq_ok, ensure_eq_ok,
    exists_const, okOr_eq_ok, hnext, any_increase_eq_false hle, checkIncreaseAllowed,
    ExecuteMsg.isLendOrBorrow]
  by_cases hcancel : (normalizeAdjustments adjustments).isEmpty = true
  · refine ⟨(s.clearDirectedSaleOffer info.sender).setDirectedSaleVersion info.sender version,
      adjustResponse info.sender ∅ "0" version, Or.inr hstate, Or.inr trivial, hfunds, version,
      rfl, rfl, ?_⟩
    rw [if_pos hcancel]
    rfl
  · cases hleft : acc.outstanding.isEmpty with
    | true =>
      refine ⟨(s.clearDirectedSaleOffer info.sender).setDirectedSaleVersion info.sender version,
        adjustResponse info.sender acc.applied "0" version, Or.inr hstate, Or.inr trivial, hfunds,
        version, rfl, rfl, ?_⟩
      rw [if_neg hcancel, bind_eq_ok]
      refine ⟨(), rfl, ?_⟩
      rw [bind_eq_ok]
      refine ⟨acc, hloop, ?_⟩
      rw [if_pos hleft]
      rfl
    | false =>
      obtain ⟨t, ht⟩ := exists_adjustedExpiry expiresAt hle hloop hleft
      refine ⟨(s.setDirectedSaleOffer info.sender ⟨acc.outstanding, t⟩).setDirectedSaleVersion
        info.sender version, adjustResponse info.sender acc.applied (toString t.nanos) version,
        Or.inr hstate, Or.inr trivial, hfunds, version, rfl, rfl, ?_⟩
      rw [if_neg hcancel, bind_eq_ok]
      refine ⟨(), rfl, ?_⟩
      rw [bind_eq_ok]
      refine ⟨acc, hloop, ?_⟩
      rw [if_neg (by rw [hleft]; exact Bool.false_ne_true), bind_eq_ok]
      exact ⟨t, ht, rfl⟩

end DemocratizedPrime
