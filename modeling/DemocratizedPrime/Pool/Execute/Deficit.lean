import DemocratizedPrime.Pool.Validation

/-!
# The deficit and the protocol's reserve

A booked deficit is cleared from the accrued reserve, from attached coins, or by
a haircut of the lenders' index.  The reserve is paid out to the owner only as
far as the coins and the borrowers' debt cover the lenders first.
-/

namespace DemocratizedPrime

open Result

/-! ## Eliminate the deficit -/

/-- Who pays for the deficit, and how much at most. -/
inductive EliminateDeficitFunding
  | accruedReserve (maxUnderlying : Uint128)
  | bank (maxUnderlying : Uint128)
deriving DecidableEq

/-- The most that is to be paid. -/
def EliminateDeficitFunding.maxUnderlying : EliminateDeficitFunding → Uint128
  | .accruedReserve m => m
  | .bank m => m

/-- The accrued reserve pays, at the owner's word. -/
def eliminateFromReserve (store : PoolStorage) (info : MessageInfo) (reserve : ReserveStateV1)
    (max : Uint128) (res : Response) : ContractResult (ReserveStateV1 × Response) := do
  store.ownership.assertOwner info.sender
    "Only the contract owner may eliminate deficit using accrued_reserve"
  ensure (info.funds = []) (invalidFunds "No funds accepted for accrued_reserve funding")
  let clear := (reserve.deficitUnderlying.min max).min reserve.accruedReserve
  ensure (0 < clear.val) (illegalState "Nothing to clear from accrued_reserve")
  let deficitUnderlying ← okOr (reserve.deficitUnderlying.checkedSub clear)
    (illegalState "deficit_underlying underflow")
  let accruedReserve ← okOr (reserve.accruedReserve.checkedSub clear)
    (illegalState "accrued_reserve underflow")
  return ({ reserve with deficitUnderlying, accruedReserve },
    res.addText "amount" (toString clear))

/-- Attached coins pay, and the excess goes back. -/
def eliminateFromBank (info : MessageInfo) (contract : ContractStateV1)
    (reserve : ReserveStateV1) (max : Uint128) (res : Response) :
    ContractResult (ReserveStateV1 × Response) := do
  let received ← validateSingleCoinDenom info contract.lendingDenom 1
  let applied := (reserve.deficitUnderlying.min max).min received
  ensure (0 < applied.val) (illegalState "Nothing applied toward deficit")
  let deficitUnderlying ← okOr (reserve.deficitUnderlying.checkedSub applied)
    (illegalState "deficit_underlying underflow")
  let res := res.addText "amount" (toString applied)
  let refund := received.saturatingSub applied
  let res := if 0 < refund.val then
      res.addMessage (.bankSend info.sender [⟨contract.lendingDenom.name, refund⟩])
    else res
  return ({ reserve with deficitUnderlying }, res)

/-- Take the payment from the accrued reserve, or from the attached coins. -/
def fundElimination (store : PoolStorage) (info : MessageInfo) (contract : ContractStateV1)
    (reserve : ReserveStateV1) (res : Response) :
    EliminateDeficitFunding → ContractResult (ReserveStateV1 × Response)
  | .accruedReserve max => eliminateFromReserve store info reserve max res
  | .bank max => eliminateFromBank info contract reserve max res

/-- Pay the deficit off, or a part of it. -/
def eliminateDeficit (store : PoolStorage) (env : Env) (info : MessageInfo)
    (funding : EliminateDeficitFunding) : ContractResult (PoolStorage × Response) := do
  let contract := store.contract
  let (store, reserve) ← updateReserveIndexes store env contract.rateParams
  ensure (0 < reserve.deficitUnderlying.val)
    (illegalArgument "Reserve has no deficit to eliminate")
  ensure (0 < funding.maxUnderlying.val) (illegalArgument "max_underlying must be positive")
  let res := Response.new.addText "action" "eliminate_deficit"
  let (reserve, res) ← fundElimination store info contract reserve res funding
  let store := store.setReserveStateV1 reserve
  let res ← (res.addText "deficit_underlying" (toString reserve.deficitUnderlying)
    |>.addText "sender" info.sender).attachRates reserve contract.rateParams
  return (store, res)

/-- The accrued reserve and the deficit go down together. -/
theorem eliminateFromReserve_spec {s : PoolStorage} {info : MessageInfo} {r r' : ReserveStateV1}
    {max : Uint128} {res res' : Response}
    (h : eliminateFromReserve s info r max res = .ok (r', res')) :
    s.ownership.owner = some info.sender ∧ info.funds = [] ∧ res'.messages = res.messages ∧
      r' = { r with deficitUnderlying := r'.deficitUnderlying
                    accruedReserve := r'.accruedReserve } ∧
      ∃ clear, 0 < clear ∧ r'.deficitUnderlying.val + clear = r.deficitUnderlying.val ∧
        r'.accruedReserve.val + clear = r.accruedReserve.val := by
  simp only [eliminateFromReserve, Ownership.assertOwner, bind_eq_ok, ensure_eq_ok, exists_const,
    okOr_eq_ok, Uint.checkedSub_eq_some, pure_eq_ok, Prod.mk.injEq] at h
  obtain ⟨howner, hfunds, hpos, d, hd, a, ha, rfl, rfl⟩ := h
  exact ⟨howner, hfunds, rfl, rfl, _, hpos, hd, ha⟩

/-- What the coins cover comes off the deficit, and the rest of them goes back. -/
theorem eliminateFromBank_spec {info : MessageInfo} {c : ContractStateV1}
    {r r' : ReserveStateV1} {max : Uint128} {res res' : Response}
    (h : eliminateFromBank info c r max res = .ok (r', res')) :
    ∃ received applied : Uint128,
      info.funds = [⟨c.lendingDenom.name, received⟩] ∧
      0 < applied.val ∧ applied.val ≤ received.val ∧
      r' = { r with deficitUnderlying := r'.deficitUnderlying } ∧
      r'.deficitUnderlying.val + applied.val = r.deficitUnderlying.val ∧
      res'.messages = res.messages ++
        if applied.val < received.val then
          [.bankSend info.sender [⟨c.lendingDenom.name, received.saturatingSub applied⟩]]
        else [] := by
  simp only [eliminateFromBank, bind_eq_ok, validateSingleCoinDenom_eq_ok, ensure_eq_ok,
    exists_const, okOr_eq_ok, Uint.checkedSub_eq_some, pure_eq_ok, Prod.mk.injEq] at h
  obtain ⟨received, ⟨hfunds, -⟩, hpos, d, hd, rfl, rfl⟩ := h
  refine ⟨received, _, hfunds, hpos, ?_, rfl, hd, ?_⟩
  · rw [Uint.min_val]
    exact Nat.min_le_right _ _
  · generalize (r.deficitUnderlying.min max).min received = applied
    rw [Uint.saturatingSub_val]
    by_cases hlt : applied.val < received.val
    · rw [if_pos (by omega), if_pos hlt]
      rfl
    · rw [if_neg (by omega), if_neg hlt]
      simp

theorem eliminateDeficit_spec {s s' : PoolStorage} {env : Env} {info : MessageInfo}
    {funding : EliminateDeficitFunding} {res : Response}
    (h : eliminateDeficit s env info funding = .ok (s', res)) :
    ∃ r r' : ReserveStateV1,
      AccruedTo s env.blockTime r ∧
      0 < r.deficitUnderlying.val ∧
      s' = s.setReserveStateV1 r' ∧
      ((∃ max, funding = .accruedReserve max ∧ s.ownership.owner = some info.sender ∧
          info.funds = [] ∧ res.messages = [] ∧
          r' = { r with deficitUnderlying := r'.deficitUnderlying
                        accruedReserve := r'.accruedReserve } ∧
          ∃ clear, 0 < clear ∧ r'.deficitUnderlying.val + clear = r.deficitUnderlying.val ∧
            r'.accruedReserve.val + clear = r.accruedReserve.val) ∨
        ∃ received applied : Uint128,
          info.funds = [⟨s.contract.lendingDenom.name, received⟩] ∧
          0 < applied.val ∧ applied.val ≤ received.val ∧
          r' = { r with deficitUnderlying := r'.deficitUnderlying } ∧
          r'.deficitUnderlying.val + applied.val = r.deficitUnderlying.val ∧
          res.messages =
            if applied.val < received.val then
              [.bankSend info.sender
                [⟨s.contract.lendingDenom.name, received.saturatingSub applied⟩]]
            else []) := by
  simp only [eliminateDeficit, bind_eq_ok, Prod.exists, updateReserveIndexes_eq_ok, ensure_eq_ok,
    exists_const, pure_eq_ok, Prod.mk.injEq] at h
  obtain ⟨_, r, ⟨hr, rfl⟩, hpos, -, r', res₁, hfund, res₂, hres₂, rfl, rfl⟩ := h
  have hmessages := attachRates_messages hres₂
  simp only [Response.messages_addText] at hmessages
  refine ⟨r, r', hr, hpos, rfl, ?_⟩
  cases funding with
  | accruedReserve max =>
    obtain ⟨howner, hfunds, hres, hr', hclear⟩ := eliminateFromReserve_spec hfund
    exact Or.inl ⟨max, rfl, howner, hfunds, by rw [hmessages, hres]; rfl, hr', hclear⟩
  | bank max =>
    obtain ⟨received, applied, hfunds, happ, hle, hr', hd, hres⟩ := eliminateFromBank_spec hfund
    exact Or.inr ⟨received, applied, hfunds, happ, hle, hr', hd, by rw [hmessages, hres]; rfl⟩

/-! ## Socialize the deficit -/

/-- The owner spreads the deficit over the lenders, or a part of it. -/
def socializeDeficit (store : PoolStorage) (env : Env) (info : MessageInfo)
    (maxAmount : Uint128) : ContractResult (PoolStorage × Response) := do
  let contract := store.contract
  store.ownership.assertOwner info.sender "Only the contract owner may socialize deficit"
  ensure (info.funds = []) noFundsAccepted
  let (store, reserve) ← updateReserveIndexes store env contract.rateParams
  ensure (0 < maxAmount.val) (illegalArgument "max_amount must be positive")
  let amt := maxAmount.min reserve.deficitUnderlying
  ensure (0 < amt.val) (illegalState "Reserve has no deficit to socialize")
  let reserve ← applyProRataLiquidityIndexHaircut reserve amt
  let deficitUnderlying ← okOr (reserve.deficitUnderlying.checkedSub amt)
    (illegalState "deficit_underlying underflow")
  let reserve := { reserve with deficitUnderlying }
  let store := store.setReserveStateV1 reserve
  let res := Response.new.addText "action" "socialize_deficit"
    |>.addText "amount" (toString amt)
    |>.addText "deficit_underlying" (toString reserve.deficitUnderlying)
  let res ← res.attachRates reserve contract.rateParams
  return (store, res)

theorem socializeDeficit_spec {s s' : PoolStorage} {env : Env} {info : MessageInfo}
    {maxAmount : Uint128} {res : Response}
    (h : socializeDeficit s env info maxAmount = .ok (s', res)) :
    ∃ (r cut : ReserveStateV1) (amt deficit : Uint128),
      s.ownership.owner = some info.sender ∧
      info.funds = [] ∧
      AccruedTo s env.blockTime r ∧
      0 < amt.val ∧
      applyProRataLiquidityIndexHaircut r amt = .ok cut ∧
      deficit.val + amt.val = cut.deficitUnderlying.val ∧
      s' = s.setReserveStateV1 { cut with deficitUnderlying := deficit } ∧
      res.messages = [] := by
  simp only [socializeDeficit, Ownership.assertOwner, bind_eq_ok, Prod.exists,
    updateReserveIndexes_eq_ok, ensure_eq_ok, exists_const, okOr_eq_ok, Uint.checkedSub_eq_some,
    pure_eq_ok, Prod.mk.injEq] at h
  obtain ⟨howner, hfunds, _, r, ⟨hr, rfl⟩, -, hpos, cut, hcut, deficit, hdeficit, res₁, hres₁,
    rfl, rfl⟩ := h
  exact ⟨r, cut, _, deficit, howner, hfunds, hr, hpos, hcut, hdeficit, rfl,
    by simpa using attachRates_messages hres₁⟩

/-! ## Withdraw the reserve -/

/-- The recipient that was named, or the owner. -/
def reserveRecipient (deps : Deps) (store : PoolStorage) (recipient : Option String) :
    ContractResult Addr :=
  match recipient with
  | some addr => deps.addrValidate addr
  | none => store.ownership.currentOwner

/-- The owner takes the accrued reserve out, as far as the cash covers it. -/
def withdrawReserve (deps : Deps) (store : PoolStorage) (env : Env) (info : MessageInfo)
    (recipient : Option String) : ContractResult (PoolStorage × Response) := do
  let contract := store.contract
  store.ownership.assertOwner info.sender "Only the contract owner may withdraw accrued reserve"
  ensure (info.funds = []) noFundsAccepted
  let toAddress ← reserveRecipient deps store recipient
  let (store, reserve) ← updateReserveIndexes store env contract.rateParams
  ensure (reserve.deficitUnderlying.val = 0) (illegalState
    "Cannot withdraw reserve while deficit_underlying > 0; use EliminateDeficit first")
  ensure (0 < reserve.accruedReserve.val) (illegalState "No accrued reserve to withdraw")
  let totals ← reserveTotalsAndCashU128 reserve
  let bankBalance ← fromStd (deps.balance env.contractAddress contract.lendingDenom.name)
  let booked := reserve.accruedReserve
  -- What the coins and the debt leave over once the lenders are covered.  The
  -- cash of `reserveTotalsAndCashU128` would lose the sign of `L - B`.
  let covered ← okOr (bankBalance.checkedAdd totals.totalBorrow)
    (illegalState "bank + total_borrow overflow")
  let free := covered.saturatingSub totals.totalLiquidity
  let backed := booked.min free
  let pay := backed.min bankBalance
  ensure (0 < pay.val) (illegalState "No solvent accrued reserve available to withdraw")
  let writeoff ← okOr (booked.checkedSub backed)
    (illegalState "unbacked reserve writeoff underflow")
  let accruedReserve ← okOr (backed.checkedSub pay)
    (illegalState "accrued_reserve remainder underflow")
  let reserve := { reserve with accruedReserve }
  let store := store.setReserveStateV1 reserve
  let res := Response.new.addMessage
      (.bankSend toAddress [⟨contract.lendingDenom.name, pay⟩])
    |>.addText "action" "withdraw_reserve"
    |>.addText "amount" (toString pay)
    |>.addText "recipient" toAddress
    |>.addText "unbacked_reserve_writeoff" (toString writeoff)
    |>.addText "accrued_reserve_remaining" (toString reserve.accruedReserve)
  let res ← res.attachRates reserve contract.rateParams
  return (store, res)

/-- The payment is part of what is backed, and what is backed is covered by the
coins and the debt beyond the lenders' claims. -/
theorem withdrawReserve_spec {deps : Deps} {s s' : PoolStorage} {env : Env} {info : MessageInfo}
    {recipient : Option String} {res : Response}
    (h : withdrawReserve deps s env info recipient = .ok (s', res)) :
    ∃ (r : ReserveStateV1) (toAddress : Addr) (t : ReserveTotals)
      (bank backed pay left : Uint128),
      s.ownership.owner = some info.sender ∧
      info.funds = [] ∧
      AccruedTo s env.blockTime r ∧
      r.deficitUnderlying.val = 0 ∧
      reserveTotalsAndCashU128 r = .ok t ∧
      deps.balance env.contractAddress s.contract.lendingDenom.name = .ok bank ∧
      backed.val = min r.accruedReserve.val
        (bank.val + t.totalBorrow.val - t.totalLiquidity.val) ∧
      pay.val = min backed.val bank.val ∧
      0 < pay.val ∧
      left.val + pay.val = backed.val ∧
      s' = s.setReserveStateV1 { r with accruedReserve := left } ∧
      res.messages = [.bankSend toAddress [⟨s.contract.lendingDenom.name, pay⟩]] ∧
      reserveRecipient deps s recipient = .ok toAddress ∧
      ∃ writeoff : Uint128, writeoff.val + backed.val = r.accruedReserve.val ∧
        ("unbacked_reserve_writeoff", .text (toString writeoff)) ∈ res.attributes := by
  simp only [withdrawReserve, Ownership.assertOwner, bind_eq_ok, Prod.exists,
    updateReserveIndexes_eq_ok, ensure_eq_ok, exists_const, okOr_eq_ok, Uint.checkedSub_eq_some,
    Uint.checkedAdd_eq_some, fromStd_eq_ok, pure_eq_ok, Prod.mk.injEq] at h
  obtain ⟨howner, hfunds, toAddress, hto, _, r, ⟨hr, rfl⟩, hzero, -, t, ht, bank, hbank, covered,
    hcovered, hpos, writeoff, hwriteoff, left, hleft, res₁, hres₁, rfl, rfl⟩ := h
  refine ⟨r, toAddress, t, bank, _, _, left, howner, hfunds, hr, hzero, ht, hbank, ?_,
    Uint.min_val _ _, hpos, hleft, rfl, by simpa using attachRates_messages hres₁, hto, writeoff,
    hwriteoff, ?_⟩
  · rw [Uint.min_val, Uint.saturatingSub_val, hcovered]
  · apply attachRates_attributes hres₁
    simp [Response.addText, Response.addAttribute]

end DemocratizedPrime
