import DemocratizedPrime.Pool.Invariants.Underflow
import DemocratizedPrime.Pool.Replay

/-!
# Both ledgers along a run

What the two ledgers say about every reachable state and every run.

* The total debt is the sum of the borrowers' debts, and the guards that would
  report its underflow never fail (`total_scaled_borrow_is_sum`).
* The totals by asset are the sums of the holdings, and equal what came in less
  what went out (`collateral_conservation`).

`collateralReceived` and `collateralSent` are what one step moves.  A liquidation
also returns the excess of the payment, in the lending denomination, which is
never collateral.
-/

namespace DemocratizedPrime

open Result TreeMap Transitions

/-- Execution adds two refusals of its own, and neither is an underflow. -/
theorem noUnderflow_execute {deps : Deps} {s : PoolStorage} {env : Env} {info : MessageInfo}
    {msg : ExecuteMsg} (h : NoUnderflow (dispatch deps s env info msg)) :
    NoUnderflow (execute deps s env info msg) := by
  simp [execute, ledgerUnderflows, h]

/-! ## The debts -/

/-- In every reachable state the total debt is the sum of the stored debts, none
of which is zero, and neither a repayment nor a liquidation underflows it. -/
theorem total_scaled_borrow_is_sum {s : PoolStorage} (h : Reachable s) :
    (s.scaledBorrow.toList.map fun entry => entry.2.val).sum =
        s.reserve.totalScaledBorrow.val ∧
      (∀ (b : Addr) (d : Uint128), s.scaledBorrow[b]? = some d → d.val ≠ 0) ∧
      (∀ deps env info, execute deps s env info .repay ≠
        .error (illegalState "underflow: total_scaled_borrow - scaled_repay")) ∧
      ∀ deps env info borrower seize, execute deps s env info (.liquidate borrower seize) ≠
        .error (illegalState "total_scaled_borrow underflow") := by
  have hdebt := h.debtLedger
  have hheld := h.collateralLedger
  refine ⟨hdebt.total, fun b d hd => ?_, fun deps env info herror => ?_,
    fun deps env info borrower seize herror => ?_⟩
  · simpa [Uint.isZero] using hdebt.noZero b d hd
  · have hno : NoUnderflow (execute deps s env info .repay) :=
      noUnderflow_execute (noUnderflow_repay hdebt env info)
    exact hno _ herror _ (by simp [ledgerUnderflows]) rfl
  · have hno : NoUnderflow (execute deps s env info (.liquidate borrower seize)) :=
      noUnderflow_execute (noUnderflow_liquidate hdebt hheld deps env info borrower seize)
    exact hno _ herror _ (by simp [ledgerUnderflows]) rfl

/-- The pool after a loan of 500. -/
theorem total_scaled_borrow_is_sum_opening :
    ∃ s, Reachable s ∧ (s.getScaledBorrow "alice").val = 500 ∧
      (s.scaledBorrow.toList.map fun entry => entry.2.val).sum =
        s.reserve.totalScaledBorrow.val := by
  obtain ⟨s₀, ts, s, hdeployed, run, -, hcheck⟩ := exists_run Demo.opening_ok
  have hreachable : Reachable s := ⟨_, s₀, ts, hdeployed, run⟩
  exact ⟨s, hreachable, (Demo.opening_check hcheck).1, (total_scaled_borrow_is_sum hreachable).1⟩

/-! ## The collateral -/

/-- What a step receives of an asset as collateral. -/
def collateralReceived (a : String) (t : Transition PoolStorage Event) : Nat :=
  match t.label.msg with
  | .addCollateral => coinsOf a t.label.info.funds
  | _ => 0

/-- What a step sends of an asset out of the collateral: the coins of a removal,
and those of a liquidation that are not the refund of its payment. -/
def collateralSent (a : String) (t : Transition PoolStorage Event) : Nat :=
  match t.label.msg with
  | .removeCollateral _ => coinsOf a t.label.response.sentCoins
  | .liquidate .. => coinsOf a (t.label.response.sentCoins.filter
      (·.denom ≠ t.pre.contract.lendingDenom.name))
  | _ => 0

theorem coinsOf_filter_ne (a d : String) (l : List Coin) :
    coinsOf a (l.filter (·.denom ≠ d)) = if a = d then 0 else coinsOf a l := by
  induction l with
  | nil => simp
  | cons c rest ih =>
    by_cases hc : c.denom = d
    · rw [List.filter_cons_of_neg (by simpa using hc), ih, coinsOf_cons]
      by_cases ha : a = d
      · rw [if_pos ha, if_pos ha]
      · rw [if_neg ha, if_neg ha, if_neg (fun he : c.denom = a => ha (he.symm.trans hc)),
          Nat.zero_add]
    · rw [List.filter_cons_of_pos (by simpa using hc), coinsOf_cons, coinsOf_cons, ih]
      by_cases ha : a = d
      · rw [if_pos ha, if_pos ha, if_neg (fun he : c.denom = a => hc (he.trans ha))]
      · rw [if_neg ha, if_neg ha]

/-- The coins of a liquidation, but for the refund, are the seizure and the sweep. -/
theorem liquidation_sentCoins {res : Response} {sender : Addr} {d a : String} {p : LiquidationPlan}
    {seize outgoing : Amounts} (ha : a ≠ d)
    (sends : res.bankSends = (sendMessages sender
        (outgoing.toList.map entryCoin)).filterMap CosmosMsg.bankSend? ++
      (refundOf sender d p.sent p.actualRepay).filterMap CosmosMsg.bankSend?)
    (outgoing_eq : Added ∅ (seizedCoins p seize) outgoing) :
    coinsOf a res.sentCoins = coinsOf a (seizedCoins p seize) := by
  have hout : coinsOf a (outgoing.toList.map entryCoin) = coinsOf a (seizedCoins p seize) := by
    rw [coinsOf_toList, outgoing_eq.amounts a, amountOf_empty, Nat.zero_add]
  have hsend : coinsOf a (((sendMessages sender (outgoing.toList.map entryCoin)).filterMap
      CosmosMsg.bankSend?).flatMap (·.2)) = coinsOf a (outgoing.toList.map entryCoin) := by
    unfold sendMessages
    split
    · rename_i hnil
      rw [hnil]
      rfl
    · simp
  have hrefund : coinsOf a (((refundOf sender d p.sent p.actualRepay).filterMap
      CosmosMsg.bankSend?).flatMap (·.2)) = 0 := by
    unfold refundOf
    split
    · simp [Ne.symm ha]
    · rfl
  rw [Response.sentCoins, sends, List.flatMap_append, coinsOf_append, hsend, hrefund, hout,
    Nat.add_zero]

/-- One step moves the totals by what it receives and sends. -/
theorem conservation_step {s s' : PoolStorage} {e : Event} (h : CollateralLedger s)
    (hstep : PoolStep s e s') (a : String) :
    (s'.getTotalCollateralByAsset a).val + collateralSent a ⟨s, e, s'⟩ =
      (s.getTotalCollateralByAsset a).val + collateralReceived a ⟨s, e, s'⟩ := by
  unfold collateralSent collateralReceived PoolStorage.getTotalCollateralByAsset
  dsimp only
  cases hstep.effect with
  | neutral msg _ change =>
    rw [change.totalCollateralByAsset]
    cases hm : e.msg <;> rw [hm] at msg <;> first | rfl | cases msg
  | burn msg =>
    cases hm : e.msg <;> rw [hm] at msg <;> first | rfl | cases msg
  | addCollateral msg _ _ _ totals_eq =>
    rw [msg]
    exact totals_eq.amounts a
  | removeCollateral msg _ sends _ _ _ totals_eq =>
    rw [msg]
    simp only [Response.sentCoins, sends, List.flatMap_cons, List.flatMap_nil, List.append_nil]
    exact totals_eq.amounts a
  | liquidate msg target plan _ sends outgoing_eq totals_eq =>
    rw [msg]
    dsimp only
    rw [coinsOf_filter_ne]
    have htaken := totals_eq.amounts a
    split
    · -- Nothing that was held was in the lending denomination.
      rename_i ha
      have hseized := plan.seizedCoins_eq a
      rw [target.collateral_eq, ha, h.lending_eq_zero] at hseized
      rw [ha] at htaken ⊢
      omega
    · rename_i ha
      rw [liquidation_sentCoins ha sends outgoing_eq]
      exact htaken
  | updateSupportedCollateral msg => rw [msg]; rfl
  | updateContractConfig msg => rw [msg]; rfl
  | updateRateParams msg => rw [msg]; rfl
  | lend msg => rw [msg]; rfl
  | borrow msg => rw [msg]; rfl
  | repay msg => rw [msg]; rfl
  | eliminateFromReserve msg => rw [msg]; rfl
  | eliminateFromBank msg => rw [msg]; rfl
  | socializeDeficit msg => rw [msg]; rfl
  | withdrawReserve msg => rw [msg]; rfl

/-- Removing an asset that somebody holds from the supported list fails. -/
theorem removal_of_held_asset_fails {s : PoolStorage} (h : CollateralLedger s) {b : Addr}
    {a : String} (hheld : 0 < (amountOf (s.getBorrowerCollateral b) a).val) {e : Event}
    {s' : PoolStorage} {toUpdate : List CollateralAssetV1} {toRemove : List String}
    (ha : a ∈ toRemove) (hmsg : e.msg = .updateSupportedCollateral toUpdate toRemove) :
    ¬ PoolStep s e s' := by
  intro hstep
  have hd : dispatch e.deps s e.env e.info e.msg = .ok (s', e.response) := execute_eq_ok hstep
  rw [hmsg] at hd
  obtain ⟨c', -, -, -, -, hunused, -, -⟩ := updateSupportedCollateral_spec hd
  have hzero := hunused a ha (h.supported b a hheld)
  have hle := h.held_le_total b a
  omega

/-- Along every run from a new pool the totals by asset are the sums of the
holdings and what came in less what went out; no zero and no empty map is stored;
and what is held is supported.  So no total underflows, and an asset that is held
cannot be removed from the list. -/
theorem collateral_conservation {t : Timestamp} {s₀ s : PoolStorage}
    {ts : List (Transition PoolStorage Event)} (hdeployed : DeployedAt t s₀)
    (run : Run PoolStep s₀ ts s) :
    (∀ a, (s.borrowerCollateral.toList.map fun entry => (amountOf entry.2 a).val).sum =
        (s.getTotalCollateralByAsset a).val) ∧
      (∀ a, (s.getTotalCollateralByAsset a).val + (ts.map (collateralSent a)).sum =
        (ts.map (collateralReceived a)).sum) ∧
      (∀ (b : Addr) (m : Amounts), s.borrowerCollateral[b]? = some m →
        m ≠ ∅ ∧ ∀ (a : String) (amount : Uint128), m[a]? = some amount → amount.val ≠ 0) ∧
      (∀ b a, 0 < (amountOf (s.getBorrowerCollateral b) a).val →
        a ∈ assetIds s.contract.supportedCollateralAssets) ∧
      (assetIds s.contract.supportedCollateralAssets).Nodup ∧
      s.contract.lendingDenom.name ∉ assetIds s.contract.supportedCollateralAssets ∧
      (∀ deps env info toRemove, execute deps s env info (.removeCollateral toRemove) ≠
        .error (illegalState "total collateral by asset would underflow")) ∧
      (∀ deps env info borrower seize, execute deps s env info (.liquidate borrower seize) ≠
        .error (illegalState "total collateral by asset would underflow")) ∧
      ∀ b a, 0 < (amountOf (s.getBorrowerCollateral b) a).val →
        ∀ deps env info toUpdate toRemove, a ∈ toRemove →
          ∀ out, execute deps s env info (.updateSupportedCollateral toUpdate toRemove) ≠
            .ok out := by
  have hreachable : Reachable s := ⟨t, s₀, ts, hdeployed, run⟩
  have hdebt := hreachable.debtLedger
  have hheld := hreachable.collateralLedger
  have hfresh := CollateralLedger.fresh hdeployed.fresh
  refine ⟨hheld.totals, fun a => ?_, fun b m hm => ⟨fun hempty => ?_, fun a amount ha => ?_⟩,
    fun b a ha => supports_iff.mp (hheld.supported b a ha), hheld.list.nodup,
    hheld.list.notLending, fun deps env info toRemove herror => ?_,
    fun deps env info borrower seize herror => ?_,
    fun b a ha deps env info toUpdate toRemove hmem out hout => ?_⟩
  · have hsum := run.sum_eq (I := CollateralLedger) (fun _ _ _ => CollateralLedger.step)
      (fun _ _ _ h hstep => conservation_step h hstep a) hfresh
    rw [hsum, PoolStorage.getTotalCollateralByAsset, hdeployed.fresh.totalCollateralByAsset,
      amountOf_empty, Nat.zero_add]
  · have hnonempty := hheld.noEmpty b m hm
    rw [hempty] at hnonempty
    exact absurd hnonempty (by simp)
  · simpa [Uint.isZero] using hheld.noZero b m hm a amount ha
  · have hno : NoUnderflow (execute deps s env info (.removeCollateral toRemove)) :=
      noUnderflow_execute (noUnderflow_removeCollateral hheld deps env info toRemove)
    exact hno _ herror _ (by simp [ledgerUnderflows]) rfl
  · have hno : NoUnderflow (execute deps s env info (.liquidate borrower seize)) :=
      noUnderflow_execute (noUnderflow_liquidate hdebt hheld deps env info borrower seize)
    exact hno _ herror _ (by simp [ledgerUnderflows]) rfl
  · exact removal_of_held_asset_fails hheld ha hmem
      (e := ⟨⟨deps, env, info, .updateSupportedCollateral toUpdate toRemove⟩, out.2⟩) rfl hout

/-- The pool after a deposit of 100 units of gold and a loan against it. -/
theorem collateral_conservation_opening :
    ∃ s₀ ts s, DeployedAt (Demo.env 0).blockTime s₀ ∧ Run PoolStep s₀ ts s ∧
      (s.getTotalCollateralByAsset "gold").val = 100 ∧
      (s.getTotalCollateralByAsset "gold").val + (ts.map (collateralSent "gold")).sum =
        (ts.map (collateralReceived "gold")).sum := by
  obtain ⟨s₀, ts, s, hdeployed, run, -, hcheck⟩ := exists_run Demo.opening_ok
  exact ⟨s₀, ts, s, hdeployed, run, (Demo.opening_check hcheck).2,
    (collateral_conservation hdeployed run).2.1 "gold"⟩

end DemocratizedPrime
