import DemocratizedPrime.Pool.Records
import DemocratizedPrime.Pool.Safety.NoInstantLiquidation

/-!
# Isolation of the borrowers

The position of a borrower is what the pool stores under the borrower's address: the
scaled debt, the holdings, and the directed-sale offer with its version.

`PositionGuarded b x` is what no step `x` may break.

* A message of somebody else that does not liquidate `b` leaves the position alone.
* The debt goes up only by a loan of `b`, and down only by a repayment of `b` or by a
  liquidation of `b`.
* Units leave the holdings only by a removal of `b` or by a liquidation of `b`, and the
  sender of that message is paid exactly these units.

Debts and holdings are judged by `Effect`, offers and versions by `RecordChange`.
-/

namespace DemocratizedPrime

open Result Transitions

variable {s s' : PoolStorage} {e : Event} {b : Addr}

/-- What the pool stores about a borrower. -/
structure Position where
  scaledDebt : Uint128
  collateral : Amounts
  offer : Option DirectedSaleOfferV1
  version : Uint64

/-- The entries of a borrower in the maps of the pool. -/
def PoolStorage.position (store : PoolStorage) (borrower : Addr) : Position where
  scaledDebt := store.getScaledBorrow borrower
  collateral := store.getBorrowerCollateral borrower
  offer := store.getDirectedSaleOffer borrower
  version := store.getDirectedSaleVersion borrower

/-- The event is a liquidation of the borrower. -/
def Event.liquidates (e : Event) (borrower : Addr) : Prop :=
  ∃ target seize, e.msg = .liquidate target seize ∧ trim target = borrower

/-- Nobody but the sender is sent coins, and one of the sends holds this much of an
asset. -/
structure Event.PaysSender (e : Event) (asset : String) (n : Nat) : Prop where
  only : ∀ x ∈ e.response.bankSends, x.1 = e.info.sender
  paid : ∃ coins, (e.info.sender, coins) ∈ e.response.bankSends ∧ coinsOf asset coins = n

/-- What can happen to the position of `b` in a transition, and who can do it. -/
structure PositionGuarded (b : Addr) (x : Transition PoolStorage Event) : Prop where
  untouched : x.label.info.sender ≠ b → ¬ x.label.liquidates b →
    x.post.position b = x.pre.position b
  debtUp : (x.pre.getScaledBorrow b).val < (x.post.getScaledBorrow b).val →
    x.label.info.sender = b ∧ ∃ amount, x.label.msg = .borrow amount
  debtDown : (x.post.getScaledBorrow b).val < (x.pre.getScaledBorrow b).val →
    (x.label.info.sender = b ∧ x.label.msg = .repay) ∨ x.label.liquidates b
  collateralDown : ∀ asset n, n ≠ 0 → (amountOf (x.post.getBorrowerCollateral b) asset).val + n =
      (amountOf (x.pre.getBorrowerCollateral b) asset).val →
    x.label.PaysSender asset n ∧
      ((x.label.info.sender = b ∧ ∃ toRemove, x.label.msg = .removeCollateral toRemove) ∨
        x.label.liquidates b)

/-! ## Offers and versions -/

/-- A settlement writes the offer of the borrower who is liquidated only. -/
theorem shrinkOffer_other {t : LiquidationTarget} (seize : Amounts) (h : t.borrower ≠ b) :
    (shrinkOffer s t seize).getDirectedSaleOffer b = s.getDirectedSaleOffer b := by
  unfold shrinkOffer
  split
  · split
    · rfl
    · dsimp only
      split
      · exact (TreeMap.getElem?_erase_eq _ _ _).trans (if_neg h)
      · exact (TreeMap.getElem?_insert_eq _ _ _ _).trans (if_neg h)
  · rfl

/-- A settlement writes no version. -/
theorem shrinkOffer_version (s : PoolStorage) (t : LiquidationTarget) (seize : Amounts)
    (b : Addr) : (shrinkOffer s t seize).getDirectedSaleVersion b = s.getDirectedSaleVersion b := by
  unfold PoolStorage.getDirectedSaleVersion
  rw [shrinkOffer_eq]

theorem SameRecords.getDirectedSaleOffer (h : SameRecords s s') (b : Addr) :
    s'.getDirectedSaleOffer b = s.getDirectedSaleOffer b := by
  unfold PoolStorage.getDirectedSaleOffer
  rw [h.offers]

theorem SameRecords.getDirectedSaleVersion (h : SameRecords s s') (b : Addr) :
    s'.getDirectedSaleVersion b = s.getDirectedSaleVersion b := by
  unfold PoolStorage.getDirectedSaleVersion
  rw [h.versions]

/-- The event is an adjustment of the borrower's own offer. -/
def Event.adjusts (e : Event) (borrower : Addr) : Prop :=
  e.info.sender = borrower ∧ ∃ adjustments expiresAt version,
    e.msg = .adjustDirectedCollateralSale adjustments expiresAt version

/-- All but an adjustment by the borrower keep the version. -/
theorem PoolStep.version_eq (h : PoolStep s e s') (hadjust : ¬ e.adjusts b) :
    s'.getDirectedSaleVersion b = s.getDirectedSaleVersion b := by
  cases h.records with
  | none _ same => exact same.getDirectedSaleVersion b
  | @adjust adjustments expiresAt version msg adjusted =>
    have hsender : e.info.sender ≠ b :=
      fun heq => hadjust ⟨heq, adjustments, expiresAt, version, msg⟩
    have hversion (store : PoolStorage) :
        (store.setDirectedSaleVersion e.info.sender version).getDirectedSaleVersion b =
          store.getDirectedSaleVersion b := by
      show ((store.directedSaleVersion.insert e.info.sender version)[b]?).getD 0 = _
      rw [TreeMap.getElem?_insert_eq, if_neg hsender]
      rfl
    obtain ⟨-, -, rfl | ⟨offer, rfl⟩⟩ := adjustDirectedCollateralSale_spec adjusted
    · exact hversion _
    · exact hversion _
  | @liquidate borrower seize t msg target shrunk =>
    rw [shrunk.getDirectedSaleVersion b]
    exact shrinkOffer_version s t seize b
  | borrowerRule _ _ set => exact set ▸ rfl
  | lenderRule _ _ set => exact set ▸ rfl

/-- All but an adjustment by the borrower and a liquidation of the borrower keep the
offer. -/
theorem PoolStep.offer_eq (h : PoolStep s e s') (hadjust : ¬ e.adjusts b)
    (hliq : ¬ e.liquidates b) : s'.getDirectedSaleOffer b = s.getDirectedSaleOffer b := by
  cases h.records with
  | none _ same => exact same.getDirectedSaleOffer b
  | @adjust adjustments expiresAt version msg adjusted =>
    have hsender : e.info.sender ≠ b :=
      fun heq => hadjust ⟨heq, adjustments, expiresAt, version, msg⟩
    obtain ⟨-, -, rfl | ⟨offer, rfl⟩⟩ := adjustDirectedCollateralSale_spec adjusted
    · exact (TreeMap.getElem?_erase_eq _ _ _).trans (if_neg hsender)
    · exact (TreeMap.getElem?_insert_eq _ _ _ _).trans (if_neg hsender)
  | @liquidate borrower seize t msg target shrunk =>
    have hne : t.borrower ≠ b := by
      intro heq
      exact hliq ⟨borrower, seize, msg, target.borrower_eq.symm.trans heq⟩
    exact (shrunk.getDirectedSaleOffer b).trans (shrinkOffer_other seize hne)
  | borrowerRule _ _ set => exact set ▸ rfl
  | lenderRule _ _ set => exact set ▸ rfl

theorem PoolStep.untouched (h : PoolStep s e s') (hsender : e.info.sender ≠ b)
    (hliq : ¬ e.liquidates b) : s'.position b = s.position b := by
  have hother : ByOther b e.env.blockTime e :=
    ⟨hsender, rfl, fun borrower seize hmsg htrim => hliq ⟨borrower, seize, hmsg, htrim⟩⟩
  obtain ⟨hdebt, hheld⟩ := h.position_eq hother
  have hadjust : ¬ e.adjusts b := fun hadjust => hsender hadjust.1
  have hoffer := h.offer_eq hadjust hliq
  have hversion := h.version_eq hadjust
  unfold PoolStorage.position
  rw [hdebt, hheld, hoffer, hversion]

/-! ## Debts -/

/-- A save of the debt of one account. -/
theorem getScaledBorrow_save (s : PoolStorage) (a b : Addr) (d : Uint128) :
    ((s.setScaledBorrow a d).getScaledBorrow b).val =
      if a = b then d.val else (s.getScaledBorrow b).val := by
  rw [PoolStorage.getScaledBorrow_set]
  split <;> rfl

/-- What a step does to a debt: a loan adds to it, and a repayment or a liquidation takes
from it. -/
theorem PoolStep.debt_cases (b : Addr) (h : PoolStep s e s') :
    (s'.getScaledBorrow b).val = (s.getScaledBorrow b).val ∨
      ((e.info.sender = b ∧ ∃ amount, e.msg = .borrow amount) ∧
        (s.getScaledBorrow b).val ≤ (s'.getScaledBorrow b).val) ∨
      (((e.info.sender = b ∧ e.msg = .repay) ∨ e.liquidates b) ∧
        (s'.getScaledBorrow b).val ≤ (s.getScaledBorrow b).val) := by
  cases h.effect with
  | neutral _ _ change =>
    unfold PoolStorage.getScaledBorrow
    rw [change.scaledBorrow]
    exact Or.inl rfl
  | @borrow amount total debt r msg _ _ _ debt_eq _ =>
    obtain ⟨-, hnew, -⟩ := debtAfterBorrow_eq debt_eq
    have hafter := getScaledBorrow_save s e.info.sender b debt.newScaled
    split at hafter
    · rename_i heq
      rw [heq] at hnew
      refine Or.inr (Or.inl ⟨⟨heq, amount, msg⟩, ?_⟩)
      exact hafter ▸ hnew ▸ Nat.le_add_right _ _
    · exact Or.inl hafter
  | @repay amount payoff cancelled left total r msg _ _ _ _ _ left_eq _ =>
    have hafter := getScaledBorrow_save s e.info.sender b left
    split at hafter
    · rename_i heq
      rw [heq] at left_eq
      refine Or.inr (Or.inr ⟨Or.inl ⟨heq, msg⟩, ?_⟩)
      exact hafter ▸ left_eq ▸ Nat.le_add_right _ _
    · exact Or.inl hafter
  | @liquidate borrower seize outgoing totals t p r' offers msg target plan =>
    have hafter := getScaledBorrow_save s t.borrower b (if p.badDebt then 0 else p.newScaledDebt)
    have hdebt := plan.newDebt_eq
    rw [target.scaledDebt_eq] at hdebt
    by_cases heq : t.borrower = b
    · rw [if_pos heq] at hafter
      rw [heq] at hdebt
      have hliq : e.liquidates b := ⟨borrower, seize, msg, target.borrower_eq.symm.trans heq⟩
      refine Or.inr (Or.inr ⟨Or.inr hliq, ?_⟩)
      show ((s.setScaledBorrow t.borrower
        (if p.badDebt then 0 else p.newScaledDebt)).getScaledBorrow b).val ≤ _
      rw [hafter]
      split
      · exact Nat.zero_le _
      · omega
    · rw [if_neg heq] at hafter
      exact Or.inl hafter
  | _ => exact Or.inl rfl

theorem PoolStep.debtUp (h : PoolStep s e s')
    (hup : (s.getScaledBorrow b).val < (s'.getScaledBorrow b).val) :
    e.info.sender = b ∧ ∃ amount, e.msg = .borrow amount := by
  rcases h.debt_cases b with hsame | ⟨hborrow, -⟩ | ⟨-, hle⟩
  · omega
  · exact hborrow
  · omega

theorem PoolStep.debtDown (h : PoolStep s e s')
    (hdown : (s'.getScaledBorrow b).val < (s.getScaledBorrow b).val) :
    (e.info.sender = b ∧ e.msg = .repay) ∨ e.liquidates b := by
  rcases h.debt_cases b with hsame | ⟨-, hle⟩ | ⟨hpaid, -⟩
  · omega
  · omega
  · exact hpaid

/-! ## Holdings -/

theorem amountOf_save (s : PoolStorage) (a b : Addr) (m : Amounts) (asset : String) :
    (amountOf ((s.setBorrowerCollateral a m).getBorrowerCollateral b) asset).val =
      if a = b then (amountOf m asset).val
      else (amountOf (s.getBorrowerCollateral b) asset).val := by
  rw [PoolStorage.getBorrowerCollateral_set]
  split <;> rfl

theorem sendMessages_to {a : Addr} {coins : List Coin} :
    ∀ x ∈ (sendMessages a coins).filterMap CosmosMsg.bankSend?, x.1 = a := by
  unfold sendMessages
  split
  · intro x hx
    cases hx
  · intro x hx
    rw [show x = (a, coins) from List.mem_singleton.mp hx]

theorem refundOf_to {a : Addr} {denom : String} {sent used : Uint128} :
    ∀ x ∈ (refundOf a denom sent used).filterMap CosmosMsg.bankSend?, x.1 = a := by
  unfold refundOf
  split
  · intro x hx
    rw [show x = (a, _) from List.mem_singleton.mp hx]
  · intro x hx
    cases hx

/-- Both sends of a liquidation go to the liquidator, and the first one holds what was
seized and swept. -/
theorem liquidation_paysSender {outgoing : Amounts} {denom asset : String} {sent used : Uint128}
    (hsends : e.response.bankSends = (sendMessages e.info.sender
        (outgoing.toList.map entryCoin)).filterMap CosmosMsg.bankSend? ++
      (refundOf e.info.sender denom sent used).filterMap CosmosMsg.bankSend?)
    (hne : (amountOf outgoing asset).val ≠ 0) :
    e.PaysSender asset (amountOf outgoing asset).val := by
  have hcoins := coinsOf_toList outgoing asset
  have hsome : outgoing.toList.map entryCoin ≠ [] := by
    intro hnil
    rw [hnil] at hcoins
    exact hne hcoins.symm
  have hfirst : (sendMessages e.info.sender (outgoing.toList.map entryCoin)).filterMap
      CosmosMsg.bankSend? = [(e.info.sender, outgoing.toList.map entryCoin)] := by
    rw [sendMessages, if_neg hsome]
    rfl
  rw [hfirst] at hsends
  refine ⟨fun x hx => ?_, outgoing.toList.map entryCoin, ?_, hcoins⟩
  · rw [hsends] at hx
    rcases List.mem_append.mp hx with hseized | hexcess
    · rw [List.mem_singleton.mp hseized]
    · exact refundOf_to x hexcess
  · rw [hsends]
    exact List.mem_append_left _ (List.mem_singleton_self _)

theorem PoolStep.collateralDown {asset : String} {n : Nat} (h : PoolStep s e s') (hn : n ≠ 0)
    (hdown : (amountOf (s'.getBorrowerCollateral b) asset).val + n =
      (amountOf (s.getBorrowerCollateral b) asset).val) :
    e.PaysSender asset n ∧
      ((e.info.sender = b ∧ ∃ toRemove, e.msg = .removeCollateral toRemove) ∨
        e.liquidates b) := by
  have hsame {held : Amounts}
      (hheld : (amountOf held asset).val = (amountOf (s.getBorrowerCollateral b) asset).val)
      (hless : (amountOf held asset).val + n = (amountOf (s.getBorrowerCollateral b) asset).val) :
      False := by omega
  cases h.effect with
  | neutral _ _ change =>
    refine (hsame ?_ hdown).elim
    unfold PoolStorage.getBorrowerCollateral
    rw [change.borrowerCollateral]
  | @addCollateral held totals msg _ _ held_eq =>
    change (amountOf ((s.setBorrowerCollateral e.info.sender held).getBorrowerCollateral b)
      asset).val + n = _ at hdown
    have hadded := held_eq.amounts asset
    rw [amountOf_save] at hdown
    split at hdown
    · rename_i heq
      rw [heq] at hadded
      omega
    · omega
  | @removeCollateral toRemove held totals r msg _ sends _ _ held_eq _ =>
    change (amountOf ((s.setBorrowerCollateral e.info.sender held).getBorrowerCollateral b)
      asset).val + n = _ at hdown
    have htaken := held_eq.amounts asset
    rw [amountOf_save] at hdown
    split at hdown
    · rename_i heq
      rw [heq] at htaken
      refine ⟨⟨fun x hx => ?_, toRemove.toList.map entryCoin, ?_, by omega⟩,
        Or.inl ⟨heq, toRemove, msg⟩⟩
      · rw [sends] at hx
        rw [List.mem_singleton.mp hx]
      · rw [sends]
        exact List.mem_singleton_self _
    · omega
  | @liquidate borrower seize outgoing totals t p r' offers msg target plan _ sends outgoing_eq =>
    change (amountOf ((s.setBorrowerCollateral t.borrower
      (if p.badDebt then ∅ else p.postCollateral)).getBorrowerCollateral b) asset).val + n = _
        at hdown
    have hleft := plan.seizedCoins_eq asset
    have hout := outgoing_eq.amounts asset
    rw [amountOf_empty, Nat.zero_add] at hout
    rw [target.collateral_eq] at hleft
    rw [amountOf_save] at hdown
    split at hdown
    · rename_i heq
      rw [heq] at hleft
      have hexact : (amountOf outgoing asset).val = n := by omega
      refine ⟨?_, Or.inr ⟨borrower, seize, msg, target.borrower_eq.symm.trans heq⟩⟩
      rw [← hexact]
      exact liquidation_paysSender sends (hexact ▸ hn)
    · omega
  | _ => exact (hsame rfl hdown).elim

/-! ## Runs -/

theorem PoolStep.positionGuarded (h : PoolStep s e s') (b : Addr) :
    PositionGuarded b ⟨s, e, s'⟩ where
  untouched hsender hliq := h.untouched hsender hliq
  debtUp hup := h.debtUp hup
  debtDown hdown := h.debtDown hdown
  collateralDown _ _ hn hdown := h.collateralDown hn hdown

/-- No step of any run breaks the isolation of any borrower, and nor does any step from
the state that the run reaches. -/
theorem position_isolation {s₀ : PoolStorage} {ts : List (Transition PoolStorage Event)}
    (run : Run PoolStep s₀ ts s) :
    (∀ x ∈ ts, ∀ b, PositionGuarded b x) ∧
      ∀ e s', PoolStep s e s' → ∀ b, PositionGuarded b ⟨s, e, s'⟩ := by
  refine ⟨fun x hx b => ?_, fun e s' hstep b => hstep.positionGuarded b⟩
  exact (run.isStep x hx).positionGuarded b

/-- A run that ends with the liquidation of Alice. -/
theorem position_isolation_crash :
    ∃ (ts : List (Transition PoolStorage Event)) (s : PoolStorage),
      ts.map (fun x => x.label.toCall) = Demo.crash ∧ Demo.deficitCheck s = true ∧
        (∀ x ∈ ts, ∀ b, PositionGuarded b x) ∧
          ∀ e s', PoolStep s e s' → ∀ b, PositionGuarded b ⟨s, e, s'⟩ := by
  obtain ⟨s₀, ts, s, -, run, hcalls, hcheck⟩ := exists_run Demo.deficit_ok
  exact ⟨ts, s, hcalls, hcheck, position_isolation run⟩

end DemocratizedPrime
