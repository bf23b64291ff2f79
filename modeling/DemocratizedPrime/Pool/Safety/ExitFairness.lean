import DemocratizedPrime.Pool.Curve
import DemocratizedPrime.Pool.Errors
import DemocratizedPrime.Pool.Replay
import DemocratizedPrime.Pool.Invariants.ConfigSafety

/-!
# Leaving a pool without debt

When nothing is lent out and no deficit is booked, the cash is the whole of the
lenders' claims.  An exit takes the value of one holding, rounded down, and holdings
that are rounded down one by one add up to at most what the whole is worth.  So there
is cash for the next lender, whoever left before.

* `exit_paid`: what one exit pays and leaves.
* `exits_paid`: the same along a list of exits.
* `exit_admitted`, `exits_admitted`: they are all possible.
* `exit_fair`: for every order of the exits.
-/

namespace DemocratizedPrime

open Result Transitions Rounding

/-- A holder sends a holding back to the pool, to be paid out in full. -/
structure Exit where
  deps : Deps
  env : Env
  info : MessageInfo
  holder : Addr
  holding : Uint128
  commitFunds : Option Bool

/-- The message that the token hands to the pool. -/
def Exit.call (x : Exit) : Call :=
  ⟨x.deps, x.env, x.info, .receive ⟨x.holder, x.holding, .ok (.withdrawExact x.commitFunds)⟩⟩

/-- What a holding is worth at an index. -/
def Exit.claim (x : Exit) (index : Decimal256) : Nat :=
  x.holding.val * index.atomics / decimalFractional

/-- The scaled units of all who leave. -/
def totalHoldings (exits : List Exit) : Nat := (exits.map fun x => x.holding.val).sum

/-- What all of them are worth, each rounded down by itself. -/
def totalClaims (index : Decimal256) (exits : List Exit) : Nat :=
  (exits.map fun x => x.claim index).sum

/-- The error of the pool's cash check. -/
def cashRefusal : ContractError :=
  illegalArgument "Insufficient liquidity: scaled amount would exceed available cash"

/-- An error other than that of the cash check. -/
def NotRefused (e : ContractError) : Prop := e ≠ cashRefusal

section Kinds

@[simp] theorem notRefused_illegalState (m : String) : NotRefused (illegalState m) := by
  simp [NotRefused, cashRefusal, illegalState, illegalArgument]
@[simp] theorem notRefused_illegalArgument {m : String} : NotRefused (illegalArgument m) ↔
    m ≠ "Insufficient liquidity: scaled amount would exceed available cash" := by
  simp [NotRefused, cashRefusal, illegalArgument]
@[simp] theorem notRefused_std (m : String) : NotRefused (.std m) := by
  simp [NotRefused, cashRefusal, illegalArgument]

end Kinds

/-- Arithmetic does not end with the error of the cash check. -/
instance : HoldsOfArithmetic NotRefused where
  holds := by
    rintro e (⟨op, rfl⟩ | ⟨kind, rfl⟩ | ⟨reason, rfl⟩ | ⟨m, -, rfl⟩) <;>
      simp [NotRefused, cashRefusal, illegalState, illegalArgument]

/-- Nothing is lent out and no deficit is booked. -/
structure Idle (r : ReserveStateV1) : Prop where
  noBorrow : r.totalScaledBorrow.val = 0
  noDeficit : r.deficitUnderlying.val = 0

theorem totalClaims_le (index : Decimal256) (exits : List Exit) :
    totalClaims index exits ≤ totalHoldings exits * index.atomics / decimalFractional := by
  have hsum := sum_floorDiv_le index.atomics decimalFractional
    (exits.map fun x => x.holding.val)
  rw [List.map_map] at hsum
  exact hsum

/-! ## One exit -/

section

variable {s s' : PoolStorage} {x : Exit} {r : ReserveStateV1} {res : Response}

theorem Idle.congr {r' : ReserveStateV1} (h : Idle r)
    (hborrow : r'.totalScaledBorrow = r.totalScaledBorrow)
    (hdeficit : r'.deficitUnderlying = r.deficitUnderlying) : Idle r' :=
  ⟨by rw [hborrow]; exact h.noBorrow, by rw [hdeficit]; exact h.noDeficit⟩

theorem AccruedTo.idle {t : Timestamp} (h : AccruedTo s t r) (hidle : Idle s.reserve) : Idle r :=
  hidle.congr h.totalScaledBorrow h.deficitUnderlying

/-- The cash of an idle pool is what its lenders own. -/
theorem Idle.cash_eq (h : Idle r) {totals : ReserveTotals}
    (htotals : reserveTotalsAndCashU128 r = .ok totals) :
    totals.cash.val =
      r.totalScaledLiquidity.val * r.liquidityIndex.atomics / decimalFractional := by
  obtain ⟨hliquidity, hborrow, hcash⟩ := reserveTotalsAndCashU128_eq htotals
  have hzero : totals.totalBorrow.val = 0 := by
    rw [hborrow, h.noBorrow, Nat.zero_mul, Nat.zero_div]
  have hdeficit := h.noDeficit
  omega

/-- An exit pays the value of the holding and takes it out of the scaled total. -/
theorem exit_paid (h : execute x.deps s x.env x.info x.call.msg = .ok (s', res))
    (hr : AccruedTo s x.env.blockTime r) :
    (∃ paid : Uint128, res.bankSends = [(x.holder, [⟨s.contract.lendingDenom.name, paid⟩])] ∧
      paid.val = x.claim r.liquidityIndex) ∧
    ∃ left : Uint128, left.val + x.holding.val = r.totalScaledLiquidity.val ∧
      s' = s.setReserveStateV1 { r with totalScaledLiquidity := left } := by
  have hd : receive x.deps s x.env x.info
      ⟨x.holder, x.holding, .ok (.withdrawExact x.commitFunds)⟩ = .ok (s', res) := execute_eq_ok h
  obtain ⟨-, payload, hpayload, ⟨amount, exact, cf, hbody, hwithdraw⟩ |
    ⟨recipient, amount, exact, hbody, htransfer⟩⟩ := receive_spec hd
  · cases hpayload
    cases hbody
    obtain ⟨token, r₁, r', t, w, -, hr₁, -, hw, hr', htotal, hs', hmessages⟩ :=
      executeWithdrawCw20_spec hwithdraw
    obtain rfl := hr.unique hr₁
    have hburned : w.scaledToBurn = x.holding := holderWithdrawAmounts_exact hw rfl
    have hpaid := (holderWithdrawAmounts_spec hw).1
    rw [hburned] at hpaid htotal
    refine ⟨⟨w.underlyingToSend, ?_, hpaid⟩, r'.totalScaledLiquidity, htotal, ?_⟩
    · rw [bankSends_eq hmessages]
      simp [List.filterMap_cons]
    · rw [hs', hr']
  · cases hpayload
    cases hbody

theorem exit_accrues (h : execute x.deps s x.env x.info x.call.msg = .ok (s', res)) :
    ∃ r, AccruedTo s x.env.blockTime r := by
  have hd : receive x.deps s x.env x.info
      ⟨x.holder, x.holding, .ok (.withdrawExact x.commitFunds)⟩ = .ok (s', res) := execute_eq_ok h
  obtain ⟨-, payload, hpayload, ⟨amount, exact, cf, hbody, hwithdraw⟩ |
    ⟨recipient, amount, exact, hbody, htransfer⟩⟩ := receive_spec hd
  · obtain ⟨token, r, r', t, w, -, hr, -⟩ := executeWithdrawCw20_spec hwithdraw
    exact ⟨r, hr⟩
  · cases hpayload
    cases hbody

/-- An exit leaves the pool idle, with no interest to accrue in the block. -/
theorem exit_accrued {left : Uint128} {t : Timestamp} (hr : AccruedTo s t r)
    (hs' : s' = s.setReserveStateV1 { r with totalScaledLiquidity := left }) :
    AccruedTo s' t { r with totalScaledLiquidity := left } := by
  subst hs'
  apply AccruedTo.still
  exact hr.elapsed_eq_zero

/-! ## Which exits are possible -/

/-- What the pool checks of an exit besides the cash. -/
structure Exit.Admitted (x : Exit) (s : PoolStorage) : Prop where
  running : s.contract.operationalState ≠ .paused
  token : s.contract.repoTokenCw20Address = some x.info.sender
  address : x.deps.addrError x.holder = none
  positive : 0 < x.holding.val
  commit : s.getLenderRequireCommitOnExit x.holder = false ∨ x.commitFunds = some true
  market : x.commitFunds = some true → s.contract.commitMarketId.isSome = true

theorem addCommitMessage_isOk {commitFunds : Option Bool} {c : ContractStateV1}
    (hmarket : commitFunds = some true → c.commitMarketId.isSome = true) (res : Response)
    (pool account : Addr) (action : String) (funds : List Coin) :
    IsOk (addCommitMessage res (commitFunds == some true) c pool action account funds) := by
  unfold addCommitMessage newCommitMessage
  by_cases hcommit : commitFunds = some true
  · obtain ⟨id, hid⟩ := Option.isSome_iff_exists.mp (hmarket hcommit)
    rw [hcommit, hid]
    exact ⟨_, rfl⟩
  · have hfalse : (commitFunds == some true) = false := by simpa using hcommit
    rw [hfalse]
    exact ⟨_, rfl⟩

/-- An idle pool can be left by a holder of a part of its claims. -/
theorem exit_admitted (hvalid : s.contract.rateParams.validate = .ok ()) (hx : x.Admitted s)
    (hr : AccruedTo s x.env.blockTime r) (hidle : Idle r)
    (hfits : r.totalScaledLiquidity.val * r.liquidityIndex.atomics / decimalFractional < 2 ^ 128)
    (hheld : x.holding.val ≤ r.totalScaledLiquidity.val) :
    ∃ s' res, execute x.deps s x.env x.info x.call.msg = .ok (s', res) := by
  have hclaims : r.totalScaledLiquidity.val * r.liquidityIndex.atomics < 2 ^ 256 := by
    have hlt := (Nat.div_lt_iff_lt_mul (by decide)).mp hfits
    exact Nat.lt_trans hlt (by decide)
  have hle : x.claim r.liquidityIndex ≤
      r.totalScaledLiquidity.val * r.liquidityIndex.atomics / decimalFractional :=
    Nat.div_le_div_right (Nat.mul_le_mul_right _ hheld)
  -- The three amounts that the withdrawal computes.
  have hliquidity : scaledToUnderlyingLiquidity r.totalScaledLiquidity r.liquidityIndex =
      .ok ⟨_, hfits⟩ := scaledToUnderlying_of_eq rfl
  have hborrow : scaledToUnderlyingBorrow r.totalScaledBorrow r.borrowIndex = .ok 0 := by
    apply scaledToUnderlying_of_eq
    rw [hidle.noBorrow, Nat.zero_mul, Nat.zero_div]
    rfl
  have hpaid : scaledToUnderlyingLiquidity x.holding r.liquidityIndex =
      .ok ⟨x.claim r.liquidityIndex, by omega⟩ := scaledToUnderlying_of_eq rfl
  have hcash : ((⟨_, hfits⟩ : Uint128).saturatingSub 0).saturatingSub r.deficitUnderlying =
      ⟨_, hfits⟩ := by
    apply Uint.ext
    rw [Uint.saturatingSub_val, Uint.saturatingSub_val, Uint.val_zero, hidle.noDeficit]
    rfl
  obtain ⟨left, hleft⟩ : ∃ left, r.totalScaledLiquidity.checkedSub x.holding = some left :=
    ⟨r.totalScaledLiquidity.saturatingSub x.holding,
      Uint.checkedSub_eq_some.mpr (Nat.sub_add_cancel hheld)⟩
  have hleft_le : left.val ≤ r.totalScaledLiquidity.val := by
    have hsum := Uint.checkedSub_eq_some.mp hleft
    omega
  have hclaims_left : left.val * r.liquidityIndex.atomics < 2 ^ 256 :=
    Nat.lt_of_le_of_lt (Nat.mul_le_mul_right _ hleft_le) hclaims
  have hrates := attachRates_of_noBorrow (RateParamsV1.validate_spec hvalid)
    (r := { r with totalScaledLiquidity := left }) hidle.noBorrow hclaims_left
  suffices hok : IsOk (execute x.deps s x.env x.info x.call.msg) by
    obtain ⟨⟨s', res⟩, h⟩ := hok
    exact ⟨s', res, h⟩
  refine IsOk.ensure (.inr hx.running) (IsOk.ensure (.inr rfl) ?_)
  show IsOk (receive x.deps s x.env x.info
    ⟨x.holder, x.holding, .ok (.withdrawExact x.commitFunds)⟩)
  refine IsOk.bind (okOr_eq_ok.mpr hx.token) (IsOk.ensure rfl ?_)
  refine IsOk.bind (addrValidate_eq_ok.mpr ⟨hx.address, rfl⟩) ?_
  show IsOk (executeWithdrawCw20 s x.env x.holder x.holding none true x.commitFunds)
  refine IsOk.ensure hx.positive (IsOk.bind (okOr_eq_ok.mpr hx.token) (IsOk.ensure hx.commit ?_))
  refine IsOk.bind (updateReserveIndexes_eq_ok (x := (s.setReserveStateV1 r, r)).mpr ⟨hr, rfl⟩) ?_
  have htotals : reserveTotalsAndCashU128 r = .ok ⟨⟨_, hfits⟩, 0, ⟨_, hfits⟩⟩ := by
    unfold reserveTotalsAndCashU128
    rw [hliquidity, ok_bind, hborrow, ok_bind, hcash]
    rfl
  refine IsOk.bind htotals ?_
  have hamounts : holderWithdrawAmounts x.holding none true ⟨_, hfits⟩ r.liquidityIndex =
      .ok ⟨x.holding, ⟨x.claim r.liquidityIndex, by omega⟩⟩ := by
    unfold holderWithdrawAmounts
    rw [if_pos rfl, hpaid, ok_bind, ensure, if_pos hle]
    rfl
  refine IsOk.bind hamounts ?_
  have hdeduct : deductScaledLiquidityAndSave (s.setReserveStateV1 r) r x.holding =
      .ok ((s.setReserveStateV1 r).setReserveStateV1 { r with totalScaledLiquidity := left },
        { r with totalScaledLiquidity := left }) := by
    unfold deductScaledLiquidityAndSave
    rw [hleft]
    rfl
  refine IsOk.bind hdeduct ?_
  refine IsOk.bind_any (addCommitMessage_isOk hx.market _ _ _ _ _) fun res₁ _ => ?_
  refine IsOk.bind (a := res₁) rfl ?_
  exact IsOk.bind_any (hrates res₁) fun res₂ _ => isOk_pure

/-! ## The cash check never refuses -/

/-- Code that never ends with the error of the cash check. -/
abbrev NoRefusal {α : Type} (x : ContractResult α) : Prop := AllErrors NotRefused x

theorem noRefusal_addCommitMessage (res : Response) (cf : Bool) (c : ContractStateV1)
    (pool account : Addr) (action : String) (funds : List Coin) :
    NoRefusal (addCommitMessage res cf c pool action account funds) :=
  (addCommitMessage_errors res cf c pool account action funds).mono fun _ he =>
    he ▸ notRefused_illegalArgument.mpr (by decide)

/-- The cash covers a holding that is a part of the total. -/
theorem noRefusal_amounts (hidle : Idle r) (hheld : x.holding.val ≤ r.totalScaledLiquidity.val)
    {totals : ReserveTotals} (htotals : reserveTotalsAndCashU128 r = .ok totals) :
    NoRefusal (holderWithdrawAmounts x.holding none true totals.cash r.liquidityIndex) := by
  unfold holderWithdrawAmounts
  rw [if_pos rfl]
  simp only [allErrors_bind, allErrors_ensure, allErrors_pure, implies_true, and_true]
  refine ⟨arithmetic_scaledToUnderlyingLiquidity _ _, fun paid hpaid hnot => ?_⟩
  have hle : paid.val ≤ totals.cash.val := by
    rw [hidle.cash_eq htotals, scaledToUnderlying_eq hpaid]
    exact Nat.div_le_div_right (Nat.mul_le_mul_right _ hheld)
  exact absurd hle hnot

theorem wrongToken_ne (token : String) :
    s!"Only the repo token CW20 contract {token} can send to this pool" ≠
      "Insufficient liquidity: scaled amount would exceed available cash" := by
  intro h
  have hfirst := congrArg (fun text => text.toList.head?) h
  simp [String.toList_append, toString] at hfirst

/-- Whatever else may stop an exit, the cash does not. -/
theorem exit_noRefusal
    (h : ∀ r, AccruedTo s x.env.blockTime r →
      Idle r ∧ x.holding.val ≤ r.totalScaledLiquidity.val) :
    NoRefusal (execute x.deps s x.env x.info x.call.msg) := by
  have hwithdraw : NoRefusal
      (executeWithdrawCw20 s x.env x.holder x.holding none true x.commitFunds) := by
    simp only [executeWithdrawCw20, allErrors_bind, allErrors_ensure, notRefused_illegalArgument,
      Prod.forall, updateReserveIndexes_eq_ok, arithmetic_updateReserveIndexes,
      arithmetic_reserveTotals, arithmetic_attachRates, noRefusal_addCommitMessage, allErrors_pure,
      implies_true, true_and, and_true]
    refine ⟨fun _ => by simp, fun _ _ => ⟨?_, fun token _ => ⟨fun _ => by simp, ?_⟩⟩⟩
    · simp [ContractStateV1.repoTokenAddr]
    · rintro _ _ _ r ⟨hr, rfl⟩ totals htotals
      obtain ⟨hidle, hheld⟩ := h r hr
      refine ⟨noRefusal_amounts hidle hheld htotals, fun w _ => ?_⟩
      refine ⟨by simp [deductScaledLiquidityAndSave], ?_⟩
      intro _ _ _ res _
      simp [addRefund]
  have hreceive : NoRefusal (receive x.deps s x.env x.info
      ⟨x.holder, x.holding, .ok (.withdrawExact x.commitFunds)⟩) := by
    simp only [receive, allErrors_bind, allErrors_ensure]
    refine ⟨by simp [ContractStateV1.repoTokenAddr], fun token _ => ⟨?_, fun _ _ => ⟨?_, ?_⟩⟩⟩
    · intro _
      rw [notRefused_illegalArgument]
      exact wrongToken_ne token
    · unfold Deps.addrValidate
      split <;> simp
    · intro sender hsender
      obtain ⟨-, rfl⟩ := addrValidate_eq_ok.mp hsender
      exact hwithdraw
  simp only [execute, allErrors_bind, allErrors_ensure, notRefused_illegalState, implies_true,
    true_and]
  intro _ _ _ _
  exact hreceive

end

/-! ## Exits in a row -/

/-- The event pays the exit its claim. -/
def PaysClaim (denom : String) (index : Decimal256) (e : Event) (x : Exit) : Prop :=
  ∃ paid : Uint128, e.response.bankSends = [(x.holder, [⟨denom, paid⟩])] ∧ paid.val = x.claim index

section

variable {t : Timestamp} {s s' : PoolStorage} {r : ReserveStateV1} {exits : List Exit}

/-- Exits change the scaled total only, by the holdings that left. -/
theorem exits_paid {ts : List (Transition PoolStorage Event)}
    (hblock : ∀ x ∈ exits, x.env.blockTime = t) (hr : AccruedTo s t r)
    (h : replayCalls s (exits.map Exit.call) = .ok (ts, s')) :
    List.Forall₂ (fun e x => PaysClaim s.contract.lendingDenom.name r.liquidityIndex e x)
      (ts.map (·.label)) exits ∧
    s' = { s with reserve := s'.reserve } ∧
    ∃ left : Uint128, left.val + totalHoldings exits = r.totalScaledLiquidity.val ∧
      AccruedTo s' t { r with totalScaledLiquidity := left } := by
  induction exits generalizing s ts r with
  | nil =>
    simp only [List.map_nil, replayCalls, replay, pure_eq_ok, Prod.mk.injEq] at h
    obtain ⟨rfl, rfl⟩ := h
    exact ⟨.nil, rfl, r.totalScaledLiquidity, rfl, hr⟩
  | cons x rest ih =>
    simp only [List.map_cons, replayCalls, replay, bind_eq_ok, Prod.exists, pure_eq_ok,
      Prod.mk.injEq] at h
    obtain ⟨mid, res, hexit, ts', last, hrest, rfl, rfl⟩ := h
    have hx : x.env.blockTime = t := hblock x List.mem_cons_self
    obtain ⟨hpaid, left, hleft, hmid⟩ := exit_paid hexit (hx ▸ hr)
    have hr' := exit_accrued hr hmid
    obtain ⟨hpays, hsame, left', hleft', haccrued⟩ :=
      ih (fun y hy => hblock y (List.mem_cons_of_mem _ hy)) hr' hrest
    have hcontract : mid.contract = s.contract := by rw [hmid]; rfl
    refine ⟨.cons hpaid ?_, ?_, left', ?_, haccrued⟩
    · rw [hcontract] at hpays
      exact hpays
    · rw [hsame, hmid]
      rfl
    · have hcons : totalHoldings (x :: rest) = x.holding.val + totalHoldings rest := rfl
      dsimp only at hleft'
      omega

/-- They are possible in a row. -/
theorem exits_admitted (hvalid : s.contract.rateParams.validate = .ok ())
    (hadmitted : ∀ x ∈ exits, x.Admitted s) (hblock : ∀ x ∈ exits, x.env.blockTime = t)
    (hr : AccruedTo s t r) (hidle : Idle r)
    (hfits : r.totalScaledLiquidity.val * r.liquidityIndex.atomics / decimalFractional < 2 ^ 128)
    (hheld : totalHoldings exits ≤ r.totalScaledLiquidity.val) :
    ∃ ts s', replayCalls s (exits.map Exit.call) = .ok (ts, s') := by
  induction exits generalizing s r with
  | nil => exact ⟨[], s, rfl⟩
  | cons x rest ih =>
    have hcons : totalHoldings (x :: rest) = x.holding.val + totalHoldings rest := rfl
    have hx : x.env.blockTime = t := hblock x List.mem_cons_self
    obtain ⟨mid, res, hexit⟩ := exit_admitted hvalid (hadmitted x List.mem_cons_self) (hx ▸ hr)
      hidle hfits (by omega)
    obtain ⟨-, left, hleft, hmid⟩ := exit_paid hexit (hx ▸ hr)
    have hle : left.val * r.liquidityIndex.atomics / decimalFractional ≤
        r.totalScaledLiquidity.val * r.liquidityIndex.atomics / decimalFractional :=
      Nat.div_le_div_right (Nat.mul_le_mul_right _ (by omega))
    obtain ⟨ts, s', hrest⟩ := ih (s := mid) (r := { r with totalScaledLiquidity := left })
      (by rw [hmid]; exact hvalid)
      (fun y hy => by
        have hy' := hadmitted y (List.mem_cons_of_mem _ hy)
        rw [hmid]
        exact ⟨hy'.running, hy'.token, hy'.address, hy'.positive, hy'.commit, hy'.market⟩)
      (fun y hy => hblock y (List.mem_cons_of_mem _ hy)) (exit_accrued hr hmid)
      (hidle.congr rfl rfl) (Nat.lt_of_le_of_lt hle hfits) (by dsimp only; omega)
    refine ⟨⟨s, { x.call with response := res }, mid⟩ :: ts, s', ?_⟩
    simp only [List.map_cons, replayCalls, replay, bind_eq_ok, Prod.exists, pure_eq_ok,
      Prod.mk.injEq]
    exact ⟨mid, res, hexit, ts, s', hrest, rfl, rfl⟩

/-- After any of the exits, the next holding is still a part of an idle pool's claims. -/
theorem exits_next {ts : List (Transition PoolStorage Event)} {r' : ReserveStateV1} {n : Nat}
    (hidle : Idle s.reserve) (hblock : ∀ x ∈ exits, x.env.blockTime = t)
    (h : replayCalls s (exits.map Exit.call) = .ok (ts, s')) (hr' : AccruedTo s' t r')
    (hheld : totalHoldings exits + n ≤ s.reserve.totalScaledLiquidity.val) :
    Idle r' ∧ n ≤ r'.totalScaledLiquidity.val := by
  cases exits with
  | nil =>
    simp only [List.map_nil, replayCalls, replay, pure_eq_ok, Prod.mk.injEq] at h
    obtain ⟨-, rfl⟩ := h
    refine ⟨hr'.idle hidle, ?_⟩
    rw [hr'.totalScaledLiquidity]
    omega
  | cons x rest =>
    -- The first exit accrued to the block, and from there the totals follow the exits.
    have hrun := h
    simp only [List.map_cons, replayCalls, replay, bind_eq_ok, Prod.exists] at hrun
    obtain ⟨mid, res, hexit, -⟩ := hrun
    obtain ⟨r, hr⟩ := exit_accrues hexit
    rw [hblock x List.mem_cons_self] at hr
    obtain ⟨-, -, left, hleft, haccrued⟩ := exits_paid hblock hr h
    have htotal := congrArg Uint.val hr.totalScaledLiquidity
    obtain rfl := hr'.unique haccrued
    refine ⟨(hr.idle hidle).congr rfl rfl, ?_⟩
    show n ≤ left.val
    omega

end

/-- All lenders of an idle pool can leave in one block, in any order.  The cash check refuses
none of them, each is paid the claim of the holding at the index of the block, and what is left
covers those who have not left. -/
theorem exit_fair {s : PoolStorage} (hreach : Reachable s)
    (hborrow : s.reserve.totalScaledBorrow.val = 0)
    (hdeficit : s.reserve.deficitUnderlying.val = 0) {t : Timestamp} {lenders order : List Exit}
    (hblock : ∀ x ∈ lenders, x.env.blockTime = t)
    (hheld : totalHoldings lenders ≤ s.reserve.totalScaledLiquidity.val)
    (horder : order.Perm lenders) :
    (∀ done x rest ts s', order = done ++ x :: rest →
      replayCalls s (done.map Exit.call) = .ok (ts, s') →
      NoRefusal (execute x.deps s' x.env x.info x.call.msg)) ∧
    ∀ r, AccruedTo s t r →
      (r.totalScaledLiquidity.val * r.liquidityIndex.atomics / decimalFractional < 2 ^ 128 →
        (∀ x ∈ lenders, x.Admitted s) →
        ∃ ts s', replayCalls s (order.map Exit.call) = .ok (ts, s')) ∧
      ∀ done rest ts s', order = done ++ rest →
        replayCalls s (done.map Exit.call) = .ok (ts, s') →
        List.Forall₂ (fun e x => PaysClaim s.contract.lendingDenom.name r.liquidityIndex e x)
          (ts.map (·.label)) done ∧
        ∃ left : Uint128, AccruedTo s' t { r with totalScaledLiquidity := left } ∧
          totalClaims r.liquidityIndex rest ≤
            left.val * r.liquidityIndex.atomics / decimalFractional := by
  have hidle : Idle s.reserve := ⟨hborrow, hdeficit⟩
  have htotal : totalHoldings order = totalHoldings lenders := by
    unfold totalHoldings
    exact (horder.map fun x => x.holding.val).sum_eq
  have hblock' : ∀ x ∈ order, x.env.blockTime = t := fun x hx => hblock x (horder.mem_iff.mp hx)
  constructor
  · rintro done x rest ts s' rfl hrun
    have hsplit : totalHoldings (done ++ x :: rest) =
        totalHoldings done + (x.holding.val + totalHoldings rest) := by
      simp [totalHoldings]
    have hx : x.env.blockTime = t := hblock' x (List.mem_append_right _ List.mem_cons_self)
    apply exit_noRefusal
    intro r' hr'
    exact exits_next hidle (fun y hy => hblock' y (List.mem_append_left _ hy)) hrun (hx ▸ hr')
      (by omega)
  · intro r hr
    have hsame := congrArg Uint.val hr.totalScaledLiquidity
    constructor
    · intro hfits hadmitted
      exact exits_admitted hreach.rateParams_valid (fun x hx => hadmitted x (horder.mem_iff.mp hx))
        hblock' hr (hr.idle hidle) hfits (by omega)
    · rintro done rest ts s' rfl hrun
      have hsplit : totalHoldings (done ++ rest) = totalHoldings done + totalHoldings rest := by
        simp [totalHoldings]
      obtain ⟨hpays, -, left, hleft, haccrued⟩ :=
        exits_paid (fun y hy => hblock' y (List.mem_append_left _ hy)) hr hrun
      have hrest : totalHoldings rest ≤ left.val := by omega
      refine ⟨hpays, left, haccrued, ?_⟩
      calc totalClaims r.liquidityIndex rest
          ≤ totalHoldings rest * r.liquidityIndex.atomics / decimalFractional := totalClaims_le _ _
        _ ≤ left.val * r.liquidityIndex.atomics / decimalFractional :=
            Nat.div_le_div_right (Nat.mul_le_mul_right _ hrest)

namespace Demo

/-- Two lenders, and nobody borrows. -/
def lendersOnly : List Call :=
  [call "lender" [⟨"usd", 1000⟩] .lend, call "carol" [⟨"usd", 200⟩] .lend]

/-- One of them sends everything back. -/
def leave (holder : Addr) (holding : Uint128) : Exit :=
  ⟨deps 10, env 0, ⟨"repo", []⟩, holder, holding, none⟩

/-- 1200 scaled units at index one, and nothing is lent out. -/
def lendersCheck (s : PoolStorage) : Bool :=
  decide (s.reserve.totalScaledBorrow.val = 0) && decide (s.reserve.deficitUnderlying.val = 0) &&
    decide (s.reserve.totalScaledLiquidity.val = 1200) &&
    decide (s.reserve.liquidityIndex = Decimal256.one) &&
    decide (timeElapsedSeconds s.reserve.lastUpdatedAt (env 0).blockTime = 0) &&
    decide (s.contract.operationalState ≠ .paused) &&
    decide (s.contract.repoTokenCw20Address = some "repo") &&
    decide (s.getLenderRequireCommitOnExit "lender" = false) &&
    decide (s.getLenderRequireCommitOnExit "carol" = false)

theorem lendersOnly_ok :
    replayCheck (deps 10) (env 0) ⟨"owner", []⟩ msg lendersOnly lendersCheck = true := by
  decide +kernel

end Demo

/-- A pool with two lenders, who leave in the other order than they came. -/
theorem exit_fair_lendersOnly :
    ∃ s ts s', Reachable s ∧ replayCalls s
      ([Demo.leave "carol" 200, Demo.leave "lender" 1000].map Exit.call) = .ok (ts, s') := by
  obtain ⟨s₀, ts, s, hdeployed, run, -, hcheck⟩ := exists_run Demo.lendersOnly_ok
  simp only [Demo.lendersCheck, Bool.and_eq_true, decide_eq_true_eq] at hcheck
  obtain ⟨⟨⟨⟨⟨⟨⟨⟨hborrow, hdeficit⟩, hliquidity⟩, hindex⟩, helapsed⟩, hrunning⟩, htoken⟩,
    hlender⟩, hcarol⟩ := hcheck
  have hreach : Reachable s := ⟨_, s₀, ts, hdeployed, run⟩
  have hheld : totalHoldings [Demo.leave "lender" 1000, Demo.leave "carol" 200] ≤
      s.reserve.totalScaledLiquidity.val := by
    rw [hliquidity]
    decide
  have hfair := exit_fair hreach hborrow hdeficit (t := (Demo.env 0).blockTime)
    (by simp [Demo.leave]) hheld (List.Perm.swap _ _ [])
  have hr : AccruedTo s (Demo.env 0).blockTime s.reserve := AccruedTo.still helapsed
  obtain ⟨ts', s', hrun⟩ := (hfair.2 s.reserve hr).1 (by rw [hliquidity, hindex]; decide) (by
    intro x hx
    simp only [List.mem_cons, List.not_mem_nil, or_false] at hx
    rcases hx with rfl | rfl
    · exact ⟨hrunning, htoken, rfl, by decide, .inl hlender, fun h => by cases h⟩
    · exact ⟨hrunning, htoken, rfl, by decide, .inl hcarol, fun h => by cases h⟩)
  exact ⟨s, ts', s', hreach, hrun⟩

end DemocratizedPrime
