import DemocratizedPrime.Pool.Steps

/-!
# The ledger of collateral

Each borrower's holdings are a map of their own, and `total_collateral_by_asset`
adds them up.  Four messages write both stores.  `CollateralLedger` says that
they agree for every asset, that neither stores a zero or an empty map, and that
whatever is held is on the list of supported assets.

A message changes at most one borrower's holdings.  `CollateralLedger.set` is the
rule for that.  The messages that change the configuration keep both stores, and
`CollateralLedger.congr` asks of them that held assets stay supported.

`collateralReceived` and `collateralSent` count what comes in and goes out along
a run, and `conservation_step` says that the totals move by exactly that.
-/

namespace DemocratizedPrime

open Result TreeMap Transitions

/-- The totals are the sums of the holdings, and everything held is supported. -/
structure CollateralLedger (s : PoolStorage) : Prop where
  totals : ∀ a, sumBy (fun m : Amounts => (amountOf m a).val) s.borrowerCollateral =
    (s.getTotalCollateralByAsset a).val
  totalsNoZero : NoNull Uint.isZero s.totalCollateralByAsset
  noZero : ∀ (b : Addr) (m : Amounts), s.borrowerCollateral[b]? = some m → NoNull Uint.isZero m
  noEmpty : NoNull (fun m : Amounts => m.isEmpty) s.borrowerCollateral
  supported : ∀ b a, 0 < (amountOf (s.getBorrowerCollateral b) a).val →
    s.contract.supports a = true
  list : SupportedListValid s.contract

@[simp] theorem amountOf_empty (a : String) : (amountOf ∅ a).val = 0 := by
  rw [amountOf_val, valueAt_empty]

theorem amountOf_of_isEmpty {m : Amounts} (h : m.isEmpty = true) (a : String) :
    (amountOf m a).val = 0 := by
  rw [Std.ExtTreeMap.isEmpty_iff.mp h, amountOf_empty]

theorem valueAt_borrowerCollateral (s : PoolStorage) (b : Addr) (a : String) :
    valueAt (fun m : Amounts => (amountOf m a).val) s.borrowerCollateral b =
      (amountOf (s.getBorrowerCollateral b) a).val := by
  unfold valueAt PoolStorage.getBorrowerCollateral
  cases s.borrowerCollateral[b]? <;> simp

namespace CollateralLedger

variable {s s' : PoolStorage}

theorem fresh {t : Timestamp} (h : FreshPool t s) : CollateralLedger s where
  totals a := by
    rw [h.borrowerCollateral, sumBy_empty, PoolStorage.getTotalCollateralByAsset,
      h.totalCollateralByAsset, amountOf_empty]
  totalsNoZero := by
    rw [h.totalCollateralByAsset]
    exact noNull_empty _
  noZero b m hm := by simp [h.borrowerCollateral] at hm
  noEmpty := by
    rw [h.borrowerCollateral]
    exact noNull_empty _
  supported b a ha := by
    simp [PoolStorage.getBorrowerCollateral, h.borrowerCollateral] at ha
  list := h.supported

theorem holdings_noZero (h : CollateralLedger s) (b : Addr) :
    NoNull Uint.isZero (s.getBorrowerCollateral b) := by
  unfold PoolStorage.getBorrowerCollateral
  cases hb : s.borrowerCollateral[b]? with
  | none => exact noNull_empty _
  | some m => exact h.noZero b m hb

/-- What one borrower holds is at most the total. -/
theorem held_le_total (h : CollateralLedger s) (b : Addr) (a : String) :
    (amountOf (s.getBorrowerCollateral b) a).val ≤ (s.getTotalCollateralByAsset a).val := by
  rw [← h.totals a, ← valueAt_borrowerCollateral]
  exact valueAt_le_sumBy _ _ _

/-- A message that writes neither store keeps the ledger, if the list stays valid
and keeps what is held. -/
theorem congr (h : CollateralLedger s)
    (hheld : s'.borrowerCollateral = s.borrowerCollateral)
    (htotals : s'.totalCollateralByAsset = s.totalCollateralByAsset)
    (hlist : SupportedListValid s'.contract)
    (hsupported : ∀ b a, 0 < (amountOf (s.getBorrowerCollateral b) a).val →
      s'.contract.supports a = true) : CollateralLedger s' where
  totals a := by
    rw [hheld, PoolStorage.getTotalCollateralByAsset, htotals]
    exact h.totals a
  totalsNoZero := htotals ▸ h.totalsNoZero
  noZero := hheld ▸ h.noZero
  noEmpty := hheld ▸ h.noEmpty
  supported b a ha := by
    refine hsupported b a ?_
    simpa only [PoolStorage.getBorrowerCollateral, hheld] using ha
  list := hlist

/-- The rule for messages that leave the list of supported assets alone. -/
theorem congr_contract (h : CollateralLedger s)
    (hheld : s'.borrowerCollateral = s.borrowerCollateral)
    (htotals : s'.totalCollateralByAsset = s.totalCollateralByAsset)
    (hassets : s'.contract.supportedCollateralAssets = s.contract.supportedCollateralAssets)
    (hlending : s'.contract.lendingDenom = s.contract.lendingDenom) : CollateralLedger s' := by
  refine h.congr hheld htotals ⟨?_, ?_, ?_⟩ fun b a ha => ?_
  · rw [hassets]
    exact h.list.nodup
  · rw [hassets, hlending]
    exact h.list.notLending
  · rw [hassets]
    exact h.list.valid
  · rw [supports_iff, hassets]
    exact supports_iff.mp (h.supported b a ha)

/-- A message that saves one borrower's holdings keeps the ledger if the totals
move along. -/
theorem set {b : Addr} {m : Amounts} (h : CollateralLedger s)
    (hheld : s'.borrowerCollateral = (s.setBorrowerCollateral b m).borrowerCollateral)
    (hcontract : s'.contract = s.contract)
    (htotals : ∀ a, (amountOf s'.totalCollateralByAsset a).val +
        (amountOf (s.getBorrowerCollateral b) a).val =
      (amountOf s.totalCollateralByAsset a).val + (amountOf m a).val)
    (htotalsNoZero : NoNull Uint.isZero s'.totalCollateralByAsset)
    (hm : NoNull Uint.isZero m)
    (hsupported : ∀ a, 0 < (amountOf m a).val → s.contract.supports a = true) :
    CollateralLedger s' where
  totals a := by
    have hsum : sumBy (fun m : Amounts => (amountOf m a).val)
        (s.setBorrowerCollateral b m).borrowerCollateral +
          (amountOf (s.getBorrowerCollateral b) a).val =
        sumBy (fun m : Amounts => (amountOf m a).val) s.borrowerCollateral +
          (amountOf m a).val := by
      rw [← valueAt_borrowerCollateral]
      exact sumBy_putUnless (fun m hm => amountOf_of_isEmpty hm a) s.borrowerCollateral b m
    have hold := h.totals a
    have hnew := htotals a
    rw [hheld]
    unfold PoolStorage.getTotalCollateralByAsset at hold ⊢
    omega
  totalsNoZero := htotalsNoZero
  noZero b' m' hm' := by
    rw [hheld, PoolStorage.setBorrowerCollateral, getElem?_putUnless] at hm'
    split at hm'
    · split at hm'
      · cases hm'
      · rw [← Option.some.inj hm']
        exact hm
    · exact h.noZero b' m' hm'
  noEmpty := by
    rw [hheld]
    exact h.noEmpty.putUnless b m
  supported b' a ha := by
    rw [hcontract]
    have hget : s'.getBorrowerCollateral b' =
        (s.setBorrowerCollateral b m).getBorrowerCollateral b' := by
      unfold PoolStorage.getBorrowerCollateral
      rw [hheld]
    rw [hget, PoolStorage.getBorrowerCollateral_set] at ha
    split at ha
    · exact hsupported a ha
    · exact h.supported b' a ha
  list := hcontract ▸ h.list

end CollateralLedger

/-! ## What a liquidation moves -/

/-- What the seizure and the sweep take out is what the borrower no longer holds. -/
theorem LiquidationPlan.Valid.seizedCoins_eq {o : Ownership} {c : ContractStateV1}
    {info : MessageInfo} {t : LiquidationTarget} {seize : Amounts} {p : LiquidationPlan}
    (h : p.Valid o c info t seize) (a : String) :
    (amountOf (if p.badDebt then ∅ else p.postCollateral) a).val +
      coinsOf a (seizedCoins p seize) = (amountOf t.collateral a).val := by
  have htaken := h.taken.amounts a
  rw [seizedCoins, List.map_append, coinsOf_append, coinsOf_toList (sweptCollateral p)]
  unfold sweptCollateral
  cases p.badDebt with
  | false =>
    simp only [Bool.false_eq_true, if_false, amountOf_empty]
    omega
  | true =>
    simp only [if_true, amountOf_empty, normalizeSeizeMap_amountOf]
    omega

namespace CollateralLedger

variable {s s' : PoolStorage}

/-- Every step keeps the ledger. -/
theorem step {e : Event} (h : CollateralLedger s) (hstep : PoolStep s e s') :
    CollateralLedger s' := by
  cases hstep.effect with
  | neutral _ _ change =>
    exact h.congr_contract change.borrowerCollateral change.totalCollateralByAsset
      (by rw [change.contract]) (by rw [change.contract])
  | updateSupportedCollateral _ _ _ _ valid keeps unused =>
    refine h.congr rfl rfl (valid h.list) fun b a ha => ?_
    have hsupported := h.supported b a ha
    rcases keeps a hsupported with hkept | hremoved
    · exact hkept
    · have hle := h.held_le_total b a
      have hzero := unused a hremoved hsupported
      omega
  | updateContractConfig _ _ _ applied =>
    obtain ⟨hc', -⟩ := applyConfigParams_spec applied
    exact h.congr_contract rfl rfl (by rw [PoolStorage.setContractStateV1_contract, hc'])
      (by rw [PoolStorage.setContractStateV1_contract, hc'])
  | updateRateParams => exact h.congr_contract rfl rfl rfl rfl
  | lend => exact h.congr_contract rfl rfl rfl rfl
  | burn => exact h.congr_contract rfl rfl rfl rfl
  | borrow => exact h.congr_contract rfl rfl rfl rfl
  | repay => exact h.congr_contract rfl rfl rfl rfl
  | addCollateral _ _ coins held_eq totals_eq =>
    refine h.set (b := e.info.sender) rfl rfl (fun a => ?_)
      (totals_eq.noNull h.totalsNoZero fun c hc => (coins c hc).1)
      (held_eq.noNull (h.holdings_noZero _) fun c hc => (coins c hc).1) fun a ha => ?_
    · have h1 := held_eq.amounts a
      have h2 := totals_eq.amounts a
      dsimp only
      omega
    · -- What is held now was held before, or came with the message.
      rw [held_eq.amounts a] at ha
      by_cases hold : 0 < (amountOf (s.getBorrowerCollateral e.info.sender) a).val
      · exact h.supported _ a hold
      · by_contra hne
        have hzero := coinsOf_eq_zero (d := a) (l := e.info.funds)
          fun c hc hd => hne (hd ▸ (coins c hc).2)
        omega
  | removeCollateral _ _ _ _ _ held_eq totals_eq =>
    refine h.set (b := e.info.sender) rfl rfl (fun a => ?_) (totals_eq.noNull h.totalsNoZero)
      (held_eq.noNull (h.holdings_noZero _)) fun a ha => ?_
    · have h1 := held_eq.amounts a
      have h2 := totals_eq.amounts a
      dsimp only
      omega
    · refine h.supported e.info.sender a ?_
      have := held_eq.amounts a
      omega
  | @liquidate borrower seize outgoing totals t p r' offers _ target plan _ _ _ totals_eq =>
    have hmoved := plan.seizedCoins_eq
    rw [target.collateral_eq] at hmoved
    refine h.set (b := t.borrower) (m := if p.badDebt then ∅ else p.postCollateral) rfl rfl
      (fun a => ?_) (totals_eq.noNull h.totalsNoZero) ?_ fun a ha => ?_
    · have h1 := hmoved a
      have h2 := totals_eq.amounts a
      dsimp only
      omega
    · cases p.badDebt with
      | false =>
        refine plan.taken.noNull ?_
        rw [target.collateral_eq]
        exact h.holdings_noZero _
      | true => exact noNull_empty _
    · refine h.supported t.borrower a ?_
      have := hmoved a
      omega
  | eliminateFromReserve => exact h.congr_contract rfl rfl rfl rfl
  | eliminateFromBank => exact h.congr_contract rfl rfl rfl rfl
  | socializeDeficit => exact h.congr_contract rfl rfl rfl rfl
  | withdrawReserve => exact h.congr_contract rfl rfl rfl rfl

/-- The lending denomination is never collateral. -/
theorem lending_eq_zero (h : CollateralLedger s) (b : Addr) :
    (amountOf (s.getBorrowerCollateral b) s.contract.lendingDenom.name).val = 0 := by
  by_contra hne
  exact h.list.notLending (supports_iff.mp (h.supported b _ (by omega)))

end CollateralLedger

/-- The ledger of collateral holds in every reachable state. -/
theorem Reachable.collateralLedger {s : PoolStorage} (h : Reachable s) : CollateralLedger s :=
  h.invariant (fun _ _ => CollateralLedger.fresh) (fun _ _ _ => CollateralLedger.step)

end DemocratizedPrime
