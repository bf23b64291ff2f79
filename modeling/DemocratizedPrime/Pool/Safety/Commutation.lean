import DemocratizedPrime.Lib.Locality
import DemocratizedPrime.Pool.Accrual
import DemocratizedPrime.Pool.Replay
import DemocratizedPrime.Pool.Invariants.CollateralLedger

/-!
# Messages of one block in either order

Lenders and borrowers share the reserve and the totals of the collateral.  In one block
they do not see each other there: the first message that touches the reserve accrues the
interest, and from then on the indexes stand still.

* `UserEffect.Applies` is all that a message of a user does: it may accrue, it moves the
  totals, and it writes the user's own debt and holdings.
* `SameView` is what such a message reads.
* `userMessage_local` is the step lemma, by the kind of the message, and
  `same_block_commute` the result.
-/

namespace DemocratizedPrime

open Result TreeMap

/-! ## What a message of a user does -/

/-- The changes of the totals, and what is written under the user's address. -/
structure UserEffect where
  accrues : Bool
  lent : Int
  borrowed : Int
  debt : Option Uint128
  holdings : Option Amounts
  collateral : String → Int

/-- The debts after a write, if there is one. -/
def writeDebt (s : PoolStorage) (u : Addr) : Option Uint128 → PoolStorage
  | none => s
  | some debt => s.setScaledBorrow u debt

/-- The holdings after a write, if there is one. -/
def writeHoldings (s : PoolStorage) (u : Addr) : Option Amounts → PoolStorage
  | none => s
  | some holdings => s.setBorrowerCollateral u holdings

/-- A reserve without the totals that the users move. -/
def ReserveStateV1.withoutTotals (r : ReserveStateV1) : ReserveStateV1 :=
  { r with totalScaledLiquidity := 0, totalScaledBorrow := 0 }

theorem ReserveStateV1.ext_totals {r r' : ReserveStateV1} (h : r.withoutTotals = r'.withoutTotals)
    (hl : r.totalScaledLiquidity = r'.totalScaledLiquidity)
    (hb : r.totalScaledBorrow = r'.totalScaledBorrow) : r = r' := by
  have hfields := ReserveStateV1.ext_iff.mp h
  simp only [ReserveStateV1.withoutTotals] at hfields
  obtain ⟨hli, hbi, htime, -, -, hacc, hdef⟩ := hfields
  exact ReserveStateV1.ext hli hbi htime hl hb hacc hdef

/-- What an effect writes under the user's address. -/
def UserEffect.write (e : UserEffect) (u : Addr) (s : PoolStorage) : PoolStorage :=
  writeHoldings (writeDebt s u e.debt) u e.holdings

/-- What a message of an account does, on the books and on its own position, and nothing else. -/
structure UserEffect.Applies (t : Timestamp) (u : Addr) (e : UserEffect) (s s' : PoolStorage) :
    Prop where
  accrued : e.accrues = true → ∃ r, AccruedTo s t r ∧ s'.reserve.withoutTotals = r.withoutTotals
  untouched : e.accrues = false → s'.reserve = s.reserve
  lent : (s'.reserve.totalScaledLiquidity.val : Int) =
    s.reserve.totalScaledLiquidity.val + e.lent
  borrowed : (s'.reserve.totalScaledBorrow.val : Int) = s.reserve.totalScaledBorrow.val + e.borrowed
  collateral : ∀ a, ((amountOf s'.totalCollateralByAsset a).val : Int) =
    (amountOf s.totalCollateralByAsset a).val + e.collateral a
  noNull : NoNull Uint.isZero s.totalCollateralByAsset →
    NoNull Uint.isZero s'.totalCollateralByAsset
  written : s' = { e.write u s with
    reserve := s'.reserve
    totalCollateralByAsset := s'.totalCollateralByAsset }

/-- What a message of a user reads. -/
structure SameView (t : Timestamp) (u : Addr) (s x : PoolStorage) : Prop where
  contract : s.contract = x.contract
  debt : s.getScaledBorrow u = x.getScaledBorrow u
  holdings : s.getBorrowerCollateral u = x.getBorrowerCollateral u
  commit : s.getBorrowerRequireCommit u = x.getBorrowerRequireCommit u
  indexes : ∀ r r', AccruedTo s t r → AccruedTo x t r' → r.withoutTotals = r'.withoutTotals

namespace UserEffect.Applies

variable {t : Timestamp} {u v : Addr} {e f : UserEffect} {s s' s₁ s₁₂ s₂ s₂₁ : PoolStorage}

theorem contract (h : e.Applies t u s s') : s'.contract = s.contract := by
  rw [h.written, UserEffect.write]
  cases e.debt <;> cases e.holdings <;> rfl

/-- Once a message has accrued, the interest of the block is charged. -/
theorem accrued_still (h : e.Applies t u s s') (ha : e.accrues = true) :
    timeElapsedSeconds s'.reserve.lastUpdatedAt t = 0 := by
  obtain ⟨r, hr, hsame⟩ := h.accrued ha
  have htime : s'.reserve.lastUpdatedAt = r.lastUpdatedAt := (ReserveStateV1.ext_iff.mp hsame).2.2.1
  rw [htime]
  exact hr.elapsed_eq_zero

/-- The indexes of the block are the same before and after a message. -/
theorem indexes (h : e.Applies t u s s') {r r' : ReserveStateV1} (hr : AccruedTo s t r)
    (hr' : AccruedTo s' t r') : r.withoutTotals = r'.withoutTotals := by
  cases ha : e.accrues with
  | true =>
    obtain ⟨r₁, hr₁, hsame⟩ := h.accrued ha
    rw [hr'.sameSecond (h.accrued_still ha), hsame, hr.unique hr₁]
  | false =>
    have hsame := hr.of_reserve (h.untouched ha) (by rw [h.contract])
    rw [hsame.unique hr']

theorem getScaledBorrow (h : e.Applies t u s s') (huv : u ≠ v) :
    s'.getScaledBorrow v = s.getScaledBorrow v := by
  rw [h.written, UserEffect.write]
  cases e.debt <;> cases e.holdings
  · rfl
  · rfl
  · exact (PoolStorage.getScaledBorrow_set s u v _).trans (if_neg huv)
  · exact (PoolStorage.getScaledBorrow_set s u v _).trans (if_neg huv)

theorem getBorrowerCollateral (h : e.Applies t u s s') (huv : u ≠ v) :
    s'.getBorrowerCollateral v = s.getBorrowerCollateral v := by
  rw [h.written, UserEffect.write]
  cases e.debt <;> cases e.holdings
  · rfl
  · exact (PoolStorage.getBorrowerCollateral_set s u v _).trans (if_neg huv)
  · rfl
  · exact (PoolStorage.getBorrowerCollateral_set s u v _).trans (if_neg huv)

theorem getBorrowerRequireCommit (h : e.Applies t u s s') (v : Addr) :
    s'.getBorrowerRequireCommit v = s.getBorrowerRequireCommit v := by
  rw [h.written, UserEffect.write]
  cases e.debt <;> cases e.holdings <;> rfl

/-- Another user does not notice the effect. -/
theorem sameView (h : e.Applies t u s s') (huv : u ≠ v) : SameView t v s s' where
  contract := h.contract.symm
  debt := (h.getScaledBorrow huv).symm
  holdings := (h.getBorrowerCollateral huv).symm
  commit := (h.getBorrowerRequireCommit v).symm
  indexes := fun _ _ hr hr' => h.indexes hr hr'

/-- Writes under different addresses can be swapped. -/
theorem write_comm (huv : u ≠ v) (e f : UserEffect) (s : PoolStorage) :
    f.write v (e.write u s) = e.write u (f.write v s) := by
  unfold write writeHoldings writeDebt PoolStorage.setScaledBorrow
    PoolStorage.setBorrowerCollateral
  cases e.debt <;> cases e.holdings <;> cases f.debt <;> cases f.holdings <;>
    simp only [putUnless_comm _ _ huv]

/-- A write does not look at the shared parts. -/
theorem write_shared (e : UserEffect) (u : Addr) (s : PoolStorage) (r : ReserveStateV1)
    (c : Amounts) :
    e.write u { s with reserve := r, totalCollateralByAsset := c } =
      { e.write u s with reserve := r, totalCollateralByAsset := c } := by
  unfold write
  cases e.debt <;> cases e.holdings <;> rfl

/-- What two effects write, one after the other. -/
theorem written_twice (h₁ : e.Applies t u s s₁) (h₁₂ : f.Applies t v s₁ s₁₂) :
    s₁₂ = { f.write v (e.write u s) with
      reserve := s₁₂.reserve
      totalCollateralByAsset := s₁₂.totalCollateralByAsset } := by
  have hfirst : f.write v s₁ = { f.write v (e.write u s) with
      reserve := s₁.reserve
      totalCollateralByAsset := s₁.totalCollateralByAsset } := by
    rw [← write_shared, ← h₁.written]
  have hsecond := h₁₂.written
  rw [hfirst] at hsecond
  exact hsecond

/-- Two effects leave the same indexes, in either order. -/
theorem withoutTotals_comm (h₁ : e.Applies t u s s₁) (h₁₂ : f.Applies t v s₁ s₁₂)
    (h₂ : f.Applies t v s s₂) (h₂₁ : e.Applies t u s₂ s₂₁) :
    s₁₂.reserve.withoutTotals = s₂₁.reserve.withoutTotals := by
  cases he : e.accrues with
  | true =>
    obtain ⟨r₂, hr₂, hsame₂₁⟩ := h₂₁.accrued he
    obtain ⟨r, hr, hsame₁⟩ := h₁.accrued he
    rw [hsame₂₁, ← h₂.indexes hr hr₂]
    cases hf : f.accrues with
    | true =>
      obtain ⟨r₁, hr₁, hsame₁₂⟩ := h₁₂.accrued hf
      rw [hsame₁₂, h₁.indexes hr hr₁]
    | false => rw [h₁₂.untouched hf, hsame₁]
  | false =>
    rw [h₂₁.untouched he]
    cases hf : f.accrues with
    | true =>
      obtain ⟨r₁, hr₁, hsame₁₂⟩ := h₁₂.accrued hf
      obtain ⟨r, hr, hsame₂⟩ := h₂.accrued hf
      rw [hsame₁₂, hsame₂, h₁.indexes hr hr₁]
    | false => rw [h₁₂.untouched hf, h₁.untouched he, h₂.untouched hf]

/-- Effects of different users lead to the same storage in either order. -/
theorem commute (hinv : NoNull Uint.isZero s.totalCollateralByAsset) (huv : u ≠ v)
    (h₁ : e.Applies t u s s₁) (h₁₂ : f.Applies t v s₁ s₁₂) (h₂ : f.Applies t v s s₂)
    (h₂₁ : e.Applies t u s₂ s₂₁) : s₁₂ = s₂₁ := by
  have hreserve : s₁₂.reserve = s₂₁.reserve := by
    refine ReserveStateV1.ext_totals (withoutTotals_comm h₁ h₁₂ h₂ h₂₁) (Uint.ext ?_)
      (Uint.ext ?_)
    · have hlent := h₁.lent
      have hlent' := h₁₂.lent
      have hlent₂ := h₂.lent
      have hlent₂' := h₂₁.lent
      omega
    · have hborrowed := h₁.borrowed
      have hborrowed' := h₁₂.borrowed
      have hborrowed₂ := h₂.borrowed
      have hborrowed₂' := h₂₁.borrowed
      omega
  have hcollateral : s₁₂.totalCollateralByAsset = s₂₁.totalCollateralByAsset := by
    refine amounts_ext (h₁₂.noNull (h₁.noNull hinv)) (h₂₁.noNull (h₂.noNull hinv)) fun a => ?_
    have hin := h₁.collateral a
    have hin' := h₁₂.collateral a
    have hin₂ := h₂.collateral a
    have hin₂' := h₂₁.collateral a
    omega
  rw [written_twice h₁ h₁₂, written_twice h₂ h₂₁, hreserve, hcollateral, write_comm huv]

end UserEffect.Applies

/-- The users of a pool, within one block. -/
def blockLocality (t : Timestamp) : Locality Addr PoolStorage UserEffect where
  Inv s := NoNull Uint.isZero s.totalCollateralByAsset
  Same := SameView t
  Applies u e := e.Applies t u
  same_refl _ _ := {
    contract := rfl
    debt := rfl
    holdings := rfl
    commit := rfl
    indexes := fun _ _ hr hr' => by rw [hr.unique hr'] }
  frame huv h := h.sameView huv
  commute := UserEffect.Applies.commute

/-! ## The messages -/

/-- The messages of lenders and borrowers, with the user that each of them is about.  A
withdrawal comes from the repo token, on behalf of the holder who sent tokens to the pool. -/
inductive UserMessage (info : MessageInfo) : ExecuteMsg → Addr → Prop
  | lend : UserMessage info .lend info.sender
  | withdraw {cw20Msg : Cw20ReceiveMsg} {amount : Uint128} {commitFunds : Option Bool}
      (payload : cw20Msg.payload = .ok (.withdraw amount commitFunds)) :
      UserMessage info (.receive cw20Msg) cw20Msg.sender
  | withdrawExact {cw20Msg : Cw20ReceiveMsg} {commitFunds : Option Bool}
      (payload : cw20Msg.payload = .ok (.withdrawExact commitFunds)) :
      UserMessage info (.receive cw20Msg) cw20Msg.sender
  | borrow (amount : Uint128) : UserMessage info (.borrow amount) info.sender
  | repay : UserMessage info .repay info.sender
  | addCollateral : UserMessage info .addCollateral info.sender
  | removeCollateral (toRemove : Amounts) :
      UserMessage info (.removeCollateral toRemove) info.sender

section

variable {deps deps' : Deps} {s s' x x' : PoolStorage} {env : Env} {info : MessageInfo} {u : Addr}
  {res res' : Response} {t : Timestamp}

/-- The effects of a message that saves the reserve. -/
theorem applies_of_reserve {r : ReserveStateV1} {lending borrowing : Uint128} {lent borrowed : Int}
    (d : Option Uint128) (hr : AccruedTo s t r)
    (hl : (lending.val : Int) = r.totalScaledLiquidity.val + lent)
    (hb : (borrowing.val : Int) = r.totalScaledBorrow.val + borrowed) :
    UserEffect.Applies t u ⟨true, lent, borrowed, d, none, fun _ => 0⟩ s
      ((writeDebt s u d).setReserveStateV1
        { r with totalScaledLiquidity := lending, totalScaledBorrow := borrowing }) where
  accrued _ := ⟨r, hr, rfl⟩
  untouched h := by cases h
  lent := by
    rw [← hr.totalScaledLiquidity]
    exact hl
  borrowed := by
    rw [← hr.totalScaledBorrow]
    exact hb
  collateral a := by
    cases d <;> simp [writeDebt, PoolStorage.setReserveStateV1, PoolStorage.setScaledBorrow]
  noNull h := by
    cases d <;> exact h
  written := by
    cases d <;> rfl

/-- What is lent depends on the index of the block only. -/
theorem lend_local (hview : SameView env.blockTime info.sender s x)
    (h : lend deps s env info = .ok (s', res)) (h' : lend deps' x env info = .ok (x', res')) :
    res.messages = res'.messages ∧ ∃ e : UserEffect,
      e.Applies env.blockTime info.sender s s' ∧ e.Applies env.blockTime info.sender x x' := by
  obtain ⟨token, amount, minted, total, r, htoken, hr, hfunds, -, hminted, -, htotal, rfl, hms⟩ :=
    lend_spec h
  obtain ⟨token', amount', minted', total', r', htoken', hr', hfunds', -, hminted', -, htotal', rfl,
    hms'⟩ := lend_spec h'
  have hindex : r.liquidityIndex = r'.liquidityIndex :=
    (ReserveStateV1.ext_iff.mp (hview.indexes r r' hr hr')).1
  rw [hview.contract] at htoken hfunds
  obtain rfl : token = token' := Option.some.inj (htoken.symm.trans htoken')
  obtain rfl : amount = amount' := by simpa using hfunds.symm.trans hfunds'
  obtain rfl : minted = minted' := Uint.ext (by rw [hminted, hminted', hindex])
  refine ⟨by rw [hms, hms'], ⟨true, minted.val, 0, none, none, fun _ => 0⟩, ?_, ?_⟩
  · exact applies_of_reserve none hr (by omega) (by omega)
  · exact applies_of_reserve none hr' (by omega) (by omega)

/-- The cash decides whether a withdrawal is paid, not what is paid. -/
theorem holderWithdrawAmounts_unique {received cash cash' : Uint128} {amount : Option Uint128}
    {exact : Bool} {li : Decimal256} {w w' : WithdrawAmounts}
    (h : holderWithdrawAmounts received amount exact cash li = .ok w)
    (h' : holderWithdrawAmounts received amount exact cash' li = .ok w') : w = w' := by
  unfold holderWithdrawAmounts at h h'
  cases exact with
  | true =>
    simp only [if_true, bind_eq_ok, ensure_eq_ok, exists_const, pure_eq_ok] at h h'
    obtain ⟨paid, hpaid, -, rfl⟩ := h
    obtain ⟨paid', hpaid', -, rfl⟩ := h'
    rw [Except.ok.inj (hpaid.symm.trans hpaid')]
  | false =>
    simp only [Bool.false_eq_true, if_false, bind_eq_ok, ensure_eq_ok, exists_const, pure_eq_ok,
      okOr_eq_ok] at h h'
    obtain ⟨amt, hamt, -, -, scaled, hscaled, -, paid, hpaid, rfl⟩ := h
    obtain ⟨amt', hamt', -, -, scaled', hscaled', -, paid', hpaid', rfl⟩ := h'
    obtain rfl : amt = amt' := Option.some.inj (hamt.symm.trans hamt')
    obtain rfl : scaled = scaled' := Except.ok.inj (hscaled.symm.trans hscaled')
    rw [Except.ok.inj (hpaid.symm.trans hpaid')]

theorem withdraw_local {received : Uint128} {amount : Option Uint128} {exact : Bool}
    {cf : Option Bool} (hview : SameView env.blockTime u s x)
    (h : executeWithdrawCw20 s env u received amount exact cf = .ok (s', res))
    (h' : executeWithdrawCw20 x env u received amount exact cf = .ok (x', res')) :
    res.messages = res'.messages ∧ ∃ e : UserEffect,
      e.Applies env.blockTime u s s' ∧ e.Applies env.blockTime u x x' := by
  obtain ⟨token, r, r₁, t, w, htoken, hr, -, hw, hr₁, htotal, rfl, hms⟩ :=
    executeWithdrawCw20_spec h
  obtain ⟨token', r', r₁', t', w', htoken', hr', -, hw', hr₁', htotal', rfl, hms'⟩ :=
    executeWithdrawCw20_spec h'
  have hindex : r.liquidityIndex = r'.liquidityIndex :=
    (ReserveStateV1.ext_iff.mp (hview.indexes r r' hr hr')).1
  rw [hview.contract] at htoken hms
  rw [hindex] at hw
  obtain rfl : token = token' := Option.some.inj (htoken.symm.trans htoken')
  obtain rfl : w = w' := holderWithdrawAmounts_unique hw hw'
  refine ⟨by rw [hms, hms'], ⟨true, -w.scaledToBurn.val, 0, none, none, fun _ => 0⟩, ?_, ?_⟩
  · rw [hr₁]
    exact applies_of_reserve none hr (by omega) (by omega)
  · rw [hr₁']
    exact applies_of_reserve none hr' (by omega) (by omega)

theorem borrow_local {amount : Uint128} (hview : SameView env.blockTime info.sender s x)
    (h : borrow deps s env info amount = .ok (s', res))
    (h' : borrow deps' x env info amount = .ok (x', res')) :
    res.messages = res'.messages ∧ ∃ e : UserEffect,
      e.Applies env.blockTime info.sender s s' ∧ e.Applies env.blockTime info.sender x x' := by
  obtain ⟨r, t, debt, prices, position, total, -, hr, -, -, hdebt, -, -, -, htotal, rfl, hms⟩ :=
    borrow_spec h
  obtain ⟨r', t', debt', prices', position', total', -, hr', -, -, hdebt', -, -, -, htotal', rfl,
    hms'⟩ := borrow_spec h'
  have hindex : r.borrowIndex = r'.borrowIndex :=
    (ReserveStateV1.ext_iff.mp (hview.indexes r r' hr hr')).2.1
  rw [hview.contract, hview.commit] at hms
  rw [hview.debt, hindex] at hdebt
  obtain rfl : debt = debt' := Except.ok.inj (hdebt.symm.trans hdebt')
  refine ⟨by rw [hms, hms'],
    ⟨true, 0, debt.scaledDelta.val, some debt.newScaled, none, fun _ => 0⟩, ?_, ?_⟩
  · exact applies_of_reserve (some debt.newScaled) hr (by omega) (by omega)
  · exact applies_of_reserve (some debt.newScaled) hr' (by omega) (by omega)

theorem repay_local (hview : SameView env.blockTime info.sender s x)
    (h : repay s env info = .ok (s', res)) (h' : repay x env info = .ok (x', res')) :
    res.messages = res'.messages ∧ ∃ e : UserEffect,
      e.Applies env.blockTime info.sender s s' ∧ e.Applies env.blockTime info.sender x x' := by
  obtain ⟨amount, payoff, cancelled, left, total, r, hfunds, hr, hpayoff, hcancelled, -, hleft,
    htotal, rfl, hms⟩ := repay_spec h
  obtain ⟨amount', payoff', cancelled', left', total', r', hfunds', hr', hpayoff', hcancelled', -,
    hleft', htotal', rfl, hms'⟩ := repay_spec h'
  have hindex : r.borrowIndex = r'.borrowIndex :=
    (ReserveStateV1.ext_iff.mp (hview.indexes r r' hr hr')).2.1
  rw [hview.contract] at hfunds
  rw [hview.contract, hview.commit] at hms
  rw [hview.debt, hindex] at hpayoff hcancelled
  rw [hview.debt] at hleft
  obtain rfl : amount = amount' := by simpa using hfunds.symm.trans hfunds'
  obtain rfl : payoff = payoff' := Uint.ext (hpayoff.trans hpayoff'.symm)
  obtain rfl : cancelled = cancelled' := Except.ok.inj (hcancelled.symm.trans hcancelled')
  obtain rfl : left = left' := Uint.ext (by omega)
  refine ⟨by rw [hms, hms'], ⟨true, 0, -cancelled.val, some left, none, fun _ => 0⟩, ?_, ?_⟩
  · exact applies_of_reserve (some left) hr (by omega) (by omega)
  · exact applies_of_reserve (some left) hr' (by omega) (by omega)

/-- The new holdings are what the loop over the coins makes of the old ones. -/
theorem addCollateral_holdings (h : addCollateral deps s env info = .ok (s', res)) :
    info.funds.foldlM addCollateralCoin (s.getBorrowerCollateral info.sender) =
      .ok (s'.getBorrowerCollateral info.sender) := by
  simp only [addCollateral, bind_eq_ok, ensure_eq_ok, exists_const, pure_eq_ok,
    Prod.mk.injEq] at h
  obtain ⟨-, -, -, -, -, -, -, -, -, held, hheld, store, hstore, rfl, -⟩ := h
  obtain ⟨hs, -⟩ := addTotalCollateralCoin_foldlM hstore
  rw [hheld, hs]
  exact congrArg Except.ok ((PoolStorage.getBorrowerCollateral_set s _ _ _).trans (if_pos rfl)).symm

theorem addCollateral_local (hview : SameView env.blockTime info.sender s x)
    (h : addCollateral deps s env info = .ok (s', res))
    (h' : addCollateral deps' x env info = .ok (x', res')) :
    res.messages = res'.messages ∧ ∃ e : UserEffect,
      e.Applies env.blockTime info.sender s s' ∧ e.Applies env.blockTime info.sender x x' := by
  have hheld := addCollateral_holdings h
  have hheld' := addCollateral_holdings h'
  rw [hview.holdings, hheld', Except.ok.injEq] at hheld
  have hall (y y' : PoolStorage) (d : Deps) (r : Response)
      (hy : addCollateral d y env info = .ok (y', r)) : r.messages = [] ∧
      UserEffect.Applies env.blockTime info.sender
        ⟨false, 0, 0, none, some (y'.getBorrowerCollateral info.sender),
          fun a => coinsOf a info.funds⟩ y y' := by
    obtain ⟨held, totals, hcoins, -, htotals, rfl, hms⟩ := addCollateral_spec hy
    have hget : PoolStorage.getBorrowerCollateral
        { y.setBorrowerCollateral info.sender held with totalCollateralByAsset := totals }
        info.sender = held :=
      (PoolStorage.getBorrowerCollateral_set y _ _ _).trans (if_pos rfl)
    rw [hget]
    exact ⟨hms, {
      accrued := fun hc => by cases hc
      untouched := fun _ => rfl
      lent := (add_zero _).symm
      borrowed := (add_zero _).symm
      collateral := fun a => by
        have ha := htotals.amounts a
        dsimp only
        omega
      noNull := fun hn => htotals.noNull hn fun c hc => (hcoins c hc).1
      written := rfl }⟩
  obtain ⟨hms, he⟩ := hall s s' deps res h
  obtain ⟨hms', he'⟩ := hall x x' deps' res' h'
  rw [← hheld] at he
  exact ⟨by rw [hms, hms'], _, he, he'⟩

theorem removeCollateral_holdings {toRemove : Amounts}
    (h : removeCollateral deps s env info toRemove = .ok (s', res)) :
    toRemove.toList.foldlM (removeCollateralEntry s.contract)
      (s.getBorrowerCollateral info.sender) = .ok (s'.getBorrowerCollateral info.sender) := by
  simp only [removeCollateral, bind_eq_ok, Prod.exists, updateReserveIndexes_eq_ok, ensure_eq_ok,
    exists_const, pure_eq_ok, Prod.mk.injEq] at h
  obtain ⟨-, -, -, -, held, hheld, _, r, ⟨-, rfl⟩, -, -, -, -, store, hstore, -, -, -, -, rfl, -⟩ :=
    h
  obtain ⟨hs, -⟩ := subtractTotalCollateralEntry_foldlM hstore
  rw [hheld, hs]
  exact congrArg Except.ok
    ((PoolStorage.getBorrowerCollateral_set (s.setReserveStateV1 r) _ _ _).trans (if_pos rfl)).symm

theorem removeCollateral_local {toRemove : Amounts}
    (hview : SameView env.blockTime info.sender s x)
    (h : removeCollateral deps s env info toRemove = .ok (s', res))
    (h' : removeCollateral deps' x env info toRemove = .ok (x', res')) :
    res.messages = res'.messages ∧ ∃ e : UserEffect,
      e.Applies env.blockTime info.sender s s' ∧ e.Applies env.blockTime info.sender x x' := by
  have hheld := removeCollateral_holdings h
  have hheld' := removeCollateral_holdings h'
  rw [hview.holdings, hview.contract, hheld', Except.ok.injEq] at hheld
  have hall (y y' : PoolStorage) (d : Deps) (r : Response)
      (hy : removeCollateral d y env info toRemove = .ok (y', r)) :
      r.messages = [.bankSend info.sender (toRemove.toList.map entryCoin)] ++
        commitMessages (y.getBorrowerRequireCommit info.sender) y.contract env.contractAddress
          "remove_collateral" info.sender (toRemove.toList.map entryCoin) ∧
      UserEffect.Applies env.blockTime info.sender
        ⟨true, 0, 0, none, some (y'.getBorrowerCollateral info.sender),
          fun a => -coinsOf a (toRemove.toList.map entryCoin)⟩ y y' := by
    obtain ⟨acc, debt, held, totals, -, -, -, hr, -, -, htotals, rfl, hms⟩ :=
      removeCollateral_spec hy
    have hget : PoolStorage.getBorrowerCollateral
        { (y.setReserveStateV1 acc).setBorrowerCollateral info.sender held with
          totalCollateralByAsset := totals } info.sender = held :=
      (PoolStorage.getBorrowerCollateral_set (y.setReserveStateV1 acc) _ _ _).trans (if_pos rfl)
    rw [hget]
    exact ⟨hms, {
      accrued := fun _ => ⟨acc, hr, rfl⟩
      untouched := fun hc => by cases hc
      lent := by
        rw [← hr.totalScaledLiquidity]
        exact (add_zero _).symm
      borrowed := by
        rw [← hr.totalScaledBorrow]
        exact (add_zero _).symm
      collateral := fun a => by
        have ha := htotals.amounts a
        dsimp only
        omega
      noNull := htotals.noNull
      written := rfl }⟩
  obtain ⟨hms, he⟩ := hall s s' deps res h
  obtain ⟨hms', he'⟩ := hall x x' deps' res' h'
  rw [← hheld] at he
  rw [hview.contract, hview.commit] at hms
  exact ⟨by rw [hms, hms'], _, he, he'⟩

/-! ## The step lemma -/

/-- A message of a user in a block, with what it sends.  The answers to its queries are
arbitrary. -/
def UserStep (env : Env) (info : MessageInfo) (msg : ExecuteMsg) (s s' : PoolStorage)
    (messages : List CosmosMsg) : Prop :=
  ∃ deps res, execute deps s env info msg = .ok (s', res) ∧ res.messages = messages

theorem receive_withdraw {cw20Msg : Cw20ReceiveMsg} {amount : Uint128} {cf : Option Bool}
    (hpayload : cw20Msg.payload = .ok (.withdraw amount cf))
    (h : receive deps s env info cw20Msg = .ok (s', res)) :
    executeWithdrawCw20 s env cw20Msg.sender cw20Msg.amount (some amount) false cf =
      .ok (s', res) := by
  simp only [receive, hpayload, bind_eq_ok, addrValidate_eq_ok] at h
  obtain ⟨_, -, _, -, _, ⟨-, rfl⟩, h⟩ := h
  exact h

theorem receive_withdrawExact {cw20Msg : Cw20ReceiveMsg} {cf : Option Bool}
    (hpayload : cw20Msg.payload = .ok (.withdrawExact cf))
    (h : receive deps s env info cw20Msg = .ok (s', res)) :
    executeWithdrawCw20 s env cw20Msg.sender cw20Msg.amount none true cf = .ok (s', res) := by
  simp only [receive, hpayload, bind_eq_ok, addrValidate_eq_ok] at h
  obtain ⟨_, -, _, -, _, ⟨-, rfl⟩, h⟩ := h
  exact h

/-- A message of a user reads nothing but the view of that user. -/
theorem userMessage_local {msg : ExecuteMsg} (hmsg : UserMessage info msg u) :
    (blockLocality env.blockTime).Local u (UserStep env info msg) := by
  rintro s x s' x' _ _ hview ⟨deps, res, h, rfl⟩ ⟨deps', res', h', rfl⟩
  have hrun := execute_eq_ok h
  have hrun' := execute_eq_ok h'
  cases hmsg with
  | lend => exact lend_local hview hrun hrun'
  | withdraw payload =>
    exact withdraw_local hview (receive_withdraw payload hrun) (receive_withdraw payload hrun')
  | withdrawExact payload =>
    exact withdraw_local hview (receive_withdrawExact payload hrun)
      (receive_withdrawExact payload hrun')
  | borrow amount => exact borrow_local hview hrun hrun'
  | repay => exact repay_local hview hrun hrun'
  | addCollateral => exact addCollateral_local hview hrun hrun'
  | removeCollateral toRemove => exact removeCollateral_local hview hrun hrun'

end

/-! ## Either order -/

/-- Two messages of different users in one block: if both orders succeed, they leave the same
storage, and each message sends the same coins and moves the same tokens. -/
theorem same_block_commute {s s₁ s₁₂ s₂ s₂₁ : PoolStorage} {env : Env}
    {info info' : MessageInfo} {msg msg' : ExecuteMsg} {u v : Addr}
    {deps₁ deps₁₂ deps₂ deps₂₁ : Deps} {a a' b b' : Response} (hreach : Reachable s)
    (hu : UserMessage info msg u) (hv : UserMessage info' msg' v) (huv : u ≠ v)
    (h₁ : execute deps₁ s env info msg = .ok (s₁, a))
    (h₁₂ : execute deps₁₂ s₁ env info' msg' = .ok (s₁₂, b))
    (h₂ : execute deps₂ s env info' msg' = .ok (s₂, b'))
    (h₂₁ : execute deps₂₁ s₂ env info msg = .ok (s₂₁, a')) :
    s₁₂ = s₂₁ ∧ a.messages = a'.messages ∧ b.messages = b'.messages :=
  Locality.commute_steps (userMessage_local hu) (userMessage_local hv) huv
    hreach.collateralLedger.totalsNoZero ⟨deps₁, a, h₁, rfl⟩ ⟨deps₁₂, b, h₁₂, rfl⟩
    ⟨deps₂, b', h₂, rfl⟩ ⟨deps₂₁, a', h₂₁, rfl⟩

namespace Demo

/-- A thousand seconds later Carol lends and Alice borrows more. -/
def carolLends (s : PoolStorage) : ContractResult (PoolStorage × Response) :=
  execute (deps 10) s (env 1000) ⟨"carol", [⟨"usd", 200⟩]⟩ .lend

/-- Alice borrows 50. -/
def aliceBorrows (s : PoolStorage) : ContractResult (PoolStorage × Response) :=
  execute (deps 10) s (env 1000) ⟨"alice", []⟩ (.borrow 50)

/-- Both orders succeed. -/
def ordersCheck (s : PoolStorage) : Bool :=
  (do let (s₁, _) ← carolLends s
      aliceBorrows s₁).isOk &&
    (do let (s₂, _) ← aliceBorrows s
        carolLends s₂).isOk

theorem orders_ok :
    replayCheck (deps 10) (env 0) ⟨"owner", []⟩ msg opening ordersCheck = true := by
  decide +kernel

end Demo

/-- Carol lends and Alice borrows, in either order. -/
theorem same_block_commute_demo :
    ∃ s s₁ s₂ s' a b, Reachable s ∧
      Demo.carolLends s = .ok (s₁, a) ∧ Demo.aliceBorrows s = .ok (s₂, b) ∧
      (∃ res, Demo.aliceBorrows s₁ = .ok (s', res) ∧ res.messages = b.messages) ∧
      ∃ res, Demo.carolLends s₂ = .ok (s', res) ∧ res.messages = a.messages := by
  obtain ⟨s₀, ts, s, hdeployed, run, -, hcheck⟩ := exists_run Demo.orders_ok
  have hreach : Reachable s := ⟨_, s₀, ts, hdeployed, run⟩
  simp only [Demo.ordersCheck, Bool.and_eq_true, isOk_iff, IsOk, bind_eq_ok, Prod.exists] at hcheck
  obtain ⟨⟨s₁₂, b', s₁, a, h₁, h₁₂⟩, s₂₁, a', s₂, b, h₂, h₂₁⟩ := hcheck
  obtain ⟨hstate, ha, hb⟩ := same_block_commute hreach .lend (.borrow 50) (by decide) h₁ h₁₂ h₂ h₂₁
  rw [← hstate] at h₂₁
  exact ⟨s, s₁, s₂, s₁₂, a, b, hreach, h₁, h₂, ⟨b', h₁₂, hb⟩, a', h₂₁, ha.symm⟩

end DemocratizedPrime
