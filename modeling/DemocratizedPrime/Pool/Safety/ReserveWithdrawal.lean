import DemocratizedPrime.Pool.World
import Mathlib.Order.Bounds.Basic

/-!
# Paying out the protocol's reserve

`L` and `B` are the lenders' claims and the borrowers' debt in whole base units,
after the accrual.  A withdrawal of the reserve pays the most that the reserve and
the bank allow while the coins that stay and the debt cover the lenders.

* `withdrawReserve_split`: where the booked reserve goes.
* `withdrawReserve_isGreatest`: the payment is the largest of its kind.
* `withdrawReserve_once`: in one block the second withdrawal finds nothing, if the
  coins of the first have left.
* `reserveWithdrawal_backed`: all of it, for a transaction with the bank.
-/

namespace DemocratizedPrime

open Result

section

variable {deps : Deps} {s s' : PoolStorage} {env : Env} {info : MessageInfo}
  {recipient : Option String} {res : Response}

/-- The amounts of a withdrawal: the accrued reserve, what the bank answered, what was paid,
what stays booked, and what was written off. -/
structure ReservePayment where
  reserve : ReserveStateV1
  totals : ReserveTotals
  toAddress : Addr
  bank : Uint128
  pay : Uint128
  left : Uint128
  writeoff : Uint128

/-- The amounts are those of a withdrawal from `s` to `s'`. -/
structure ReservePayment.Valid (p : ReservePayment) (deps : Deps) (s : PoolStorage) (env : Env)
    (s' : PoolStorage) (res : Response) : Prop where
  accrued : AccruedTo s env.blockTime p.reserve
  noDeficit : p.reserve.deficitUnderlying.val = 0
  totals_eq : reserveTotalsAndCashU128 p.reserve = .ok p.totals
  bank_eq : deps.balance env.contractAddress s.contract.lendingDenom.name = .ok p.bank
  pay_pos : 0 < p.pay.val
  pay_eq : p.pay.val = min (min p.reserve.accruedReserve.val
    (p.bank.val + p.totals.totalBorrow.val - p.totals.totalLiquidity.val)) p.bank.val
  split : p.pay.val + p.left.val + p.writeoff.val = p.reserve.accruedReserve.val
  backed_eq : p.pay.val + p.left.val = min p.reserve.accruedReserve.val
    (p.bank.val + p.totals.totalBorrow.val - p.totals.totalLiquidity.val)
  saved : s' = s.setReserveStateV1 { p.reserve with accruedReserve := p.left }
  messages : res.messages = [.bankSend p.toAddress [⟨s.contract.lendingDenom.name, p.pay⟩]]
  reported : ("unbacked_reserve_writeoff", .text (toString p.writeoff)) ∈ res.attributes

theorem withdrawReserve_payment
    (h : withdrawReserve deps s env info recipient = .ok (s', res)) :
    ∃ p : ReservePayment, p.Valid deps s env s' res ∧
      s.ownership.owner = some info.sender ∧ info.funds = [] ∧
      reserveRecipient deps s recipient = .ok p.toAddress := by
  obtain ⟨r, toAddress, t, bank, backed, pay, left, howner, hfunds, hr, hzero, ht, hbank, hbacked,
    hpay, hpos, hleft, hs', hmessages, hto, writeoff, hwriteoff, hreported⟩ :=
    withdrawReserve_spec h
  refine ⟨⟨r, t, toAddress, bank, pay, left, writeoff⟩, ?_, howner, hfunds, hto⟩
  exact
    { accrued := hr
      noDeficit := hzero
      totals_eq := ht
      bank_eq := hbank
      pay_pos := hpos
      pay_eq := by rw [← hbacked]; exact hpay
      split := by dsimp only; omega
      backed_eq := by dsimp only; omega
      saved := hs'
      messages := hmessages
      reported := hreported }

namespace ReservePayment.Valid

variable {p q : ReservePayment}

/-- The lenders stay covered, with the reserve that is still booked. -/
theorem covers (h : p.Valid deps s env s' res) :
    p.totals.totalLiquidity.val + p.left.val ≤
      p.bank.val - p.pay.val + p.totals.totalBorrow.val := by
  have hpay := h.pay_eq
  have hbacked := h.backed_eq
  have hpos := h.pay_pos
  omega

theorem isGreatest (h : p.Valid deps s env s' res) :
    IsGreatest {n | n ≤ p.reserve.accruedReserve.val ∧ n ≤ p.bank.val ∧
      p.totals.totalLiquidity.val ≤ p.bank.val - n + p.totals.totalBorrow.val} p.pay.val := by
  have hpay := h.pay_eq
  have hpos := h.pay_pos
  have hcovers := h.covers
  constructor
  · show p.pay.val ≤ _ ∧ p.pay.val ≤ _ ∧ _ ≤ _
    omega
  · rintro n ⟨hbooked, hbank, hlenders⟩
    omega

/-- Nothing that the pool owns is written off. -/
theorem writeoff_unbacked (h : p.Valid deps s env s' res) (hpos : 0 < p.writeoff.val) :
    p.bank.val + p.totals.totalBorrow.val - p.totals.totalLiquidity.val <
      p.reserve.accruedReserve.val := by
  have hsplit := h.split
  have hbacked := h.backed_eq
  omega

/-- A payment changes neither the claims nor the debt. -/
theorem totals_after (h : p.Valid deps s env s' res) :
    reserveTotalsAndCashU128 s'.reserve = .ok p.totals := by
  rw [h.saved]
  exact h.totals_eq

theorem cash_eq (h : p.Valid deps s env s' res) :
    p.totals.cash.val = p.totals.totalLiquidity.val - p.totals.totalBorrow.val := by
  have hcash := (reserveTotalsAndCashU128_eq h.totals_eq).2.2
  have hzero := h.noDeficit
  omega

/-- In the same block there is no interest to accrue, so a second payment starts from what
the first left. -/
theorem reserve_again {deps₂ : Deps} {env₂ : Env} {s₂ : PoolStorage} {res₂ : Response}
    (h : p.Valid deps s env s' res) (h₂ : q.Valid deps₂ s' env₂ s₂ res₂)
    (hblock : env₂.blockTime = env.blockTime) :
    q.reserve = { p.reserve with accruedReserve := p.left } := by
  have hsaved : s'.reserve = { p.reserve with accruedReserve := p.left } := by
    rw [h.saved]
    rfl
  have hsecond : timeElapsedSeconds s'.reserve.lastUpdatedAt env₂.blockTime = 0 := by
    rw [hsaved, hblock]
    exact h.accrued.elapsed_eq_zero
  rw [h₂.accrued.sameSecond hsecond, hsaved]

/-- The first payment took all of the backed reserve or every coin, so there is no second. -/
theorem not_again {deps₂ : Deps} {env₂ : Env} {s₂ : PoolStorage} {res₂ : Response}
    (h : p.Valid deps s env s' res) (h₂ : q.Valid deps₂ s' env₂ s₂ res₂)
    (hblock : env₂.blockTime = env.blockTime) : q.bank.val + p.pay.val ≠ p.bank.val := by
  intro hbank
  have hbooked : q.reserve.accruedReserve = p.left := by rw [h.reserve_again h₂ hblock]
  have hpay := h.pay_eq
  have hbacked := h.backed_eq
  have hpay₂ := h₂.pay_eq
  have hpos₂ := h₂.pay_pos
  rw [hbooked] at hpay₂
  omega

end ReservePayment.Valid

end

/-! ## The transaction -/

/-- The bank's answer about the pool's own coins is its balance. -/
def BalanceKnown (address : Addr) (w : World) (c : Call) : Prop :=
  ∀ coins, c.deps.balance address w.pool.contract.lendingDenom.name = .ok coins →
    coins.val = w.bank address w.pool.contract.lendingDenom.name

/-- One send to an account, as the bank books it for the payer. -/
theorem paySends_single {payer payee : Addr} {bank bank' : Bank} {coin : Coin}
    (h : paySends payer bank [(payee, [coin])] = .ok bank') :
    bank' payer coin.denom + coin.amount.val =
      bank payer coin.denom + (if payer = payee then coin.amount.val else 0) := by
  simp only [paySends, List.foldlM_cons, List.foldlM_nil, bind_eq_ok, pure_eq_ok] at h
  obtain ⟨mid, hmid, rfl⟩ := h
  have hpaid := payCoins_spec hmid payer coin.denom
  simpa using hpaid

/-- A withdrawal of the reserve, as a transaction. -/
theorem deliver_withdrawReserve {address : Addr} {w w' : World} {c : Call} {res : Response}
    {recipient : Option String} (hmsg : c.msg = .withdrawReserve recipient)
    (hknown : BalanceKnown address w c) (h : deliver address w c = .ok (w', res)) :
    ∃ p : ReservePayment, p.Valid c.deps w.pool c.env w'.pool res ∧
      p.bank.val = w.bank address w.pool.contract.lendingDenom.name ∧
      w'.bank address w.pool.contract.lendingDenom.name + p.pay.val =
        p.bank.val + (if recipient = some address then p.pay.val else 0) := by
  simp only [deliver, bind_eq_ok, ensure_eq_ok, exists_const, Prod.exists, pure_eq_ok,
    Prod.mk.injEq] at h
  obtain ⟨⟨hsender, haddress⟩, funded, hfunded, pool, response, hexecute, bank, hbank, rfl, rfl⟩ :=
    h
  have hd := execute_eq_ok hexecute
  rw [hmsg] at hd
  obtain ⟨p, hp, howner, hfunds, hto⟩ := withdrawReserve_payment hd
  have hsame : funded = w.bank := by
    rw [hfunds] at hfunded
    exact (pure_eq_ok.mp hfunded).symm
  have hbalance : p.bank.val = w.bank address w.pool.contract.lendingDenom.name := by
    apply hknown
    rw [← haddress]
    exact hp.bank_eq
  have hsends : response.bankSends =
      [(p.toAddress, [⟨w.pool.contract.lendingDenom.name, p.pay⟩])] := by
    rw [bankSends_eq hp.messages]
    rfl
  -- The owner is not the pool, so only a named recipient can be.
  have hself : address = p.toAddress ↔ recipient = some address := by
    cases recipient with
    | some addr =>
      obtain ⟨-, hto⟩ := addrValidate_eq_ok.mp hto
      rw [hto, Option.some.injEq, eq_comm]
    | none =>
      rw [reserveRecipient, Ownership.currentOwner, okOr_eq_ok, howner, Option.some.injEq] at hto
      have hne : address ≠ p.toAddress := fun he => hsender (hto.trans he.symm)
      simp [hne]
  rw [hsends, hsame] at hbank
  have hpaid := paySends_single hbank
  refine ⟨p, hp, hbalance, ?_⟩
  rw [hbalance]
  simpa only [hself] using hpaid

/-- A withdrawal of the reserve pays what the lenders' claims leave over, and no more than once
in a block unless the coins come back to the pool. -/
theorem reserveWithdrawal_backed {address : Addr} {w w' : World} {c : Call} {res : Response}
    {recipient : Option String} (hmsg : c.msg = .withdrawReserve recipient)
    (hknown : BalanceKnown address w c) (h : deliver address w c = .ok (w', res)) :
    let denom := w.pool.contract.lendingDenom.name
    ∃ (r : ReserveStateV1) (t : ReserveTotals) (toAddress : Addr) (pay left writeoff : Uint128),
      AccruedTo w.pool c.env.blockTime r ∧
      reserveTotalsAndCashU128 r = .ok t ∧
      res.messages = [.bankSend toAddress [⟨denom, pay⟩]] ∧
      ("unbacked_reserve_writeoff", .text (toString writeoff)) ∈ res.attributes ∧
      pay.val + left.val + writeoff.val = r.accruedReserve.val ∧
      IsGreatest {n | n ≤ r.accruedReserve.val ∧ n ≤ w.bank address denom ∧
        t.totalLiquidity.val ≤ w.bank address denom - n + t.totalBorrow.val} pay.val ∧
      w'.pool = w.pool.setReserveStateV1 { r with accruedReserve := left } ∧
      t.totalLiquidity.val + left.val ≤ w'.bank address denom + t.totalBorrow.val ∧
      (∃ t', reserveTotalsAndCashU128 w'.pool.reserve = .ok t' ∧
        t'.cash.val = t.totalLiquidity.val - t.totalBorrow.val ∧
        t'.cash.val ≤ w'.bank address denom) ∧
      (0 < writeoff.val → w.bank address denom + t.totalBorrow.val - t.totalLiquidity.val <
        r.accruedReserve.val) ∧
      (recipient ≠ some address → ∀ (c' : Call) (recipient' : Option String) (w'' : World)
        (res' : Response), c'.msg = .withdrawReserve recipient' →
        c'.env.blockTime = c.env.blockTime → BalanceKnown address w' c' →
        deliver address w' c' ≠ .ok (w'', res')) := by
  intro denom
  obtain ⟨p, hp, hbank, hmoved⟩ := deliver_withdrawReserve hmsg hknown h
  have hbank' : w'.bank address denom + p.pay.val =
      p.bank.val + (if recipient = some address then p.pay.val else 0) := hmoved
  have hdenom : w'.pool.contract.lendingDenom.name = denom := by rw [hp.saved]; rfl
  have hcovers := hp.covers
  have hcash := hp.cash_eq
  have hgreatest := hp.isGreatest
  have hpaid : p.pay.val ≤ p.bank.val := hgreatest.1.2.1
  have hleft : p.bank.val - p.pay.val ≤ w'.bank address denom := by omega
  refine ⟨p.reserve, p.totals, p.toAddress, p.pay, p.left, p.writeoff, hp.accrued, hp.totals_eq,
    hp.messages, hp.reported, hp.split, ?_, hp.saved, by omega, ⟨p.totals, hp.totals_after, hcash,
    by omega⟩, ?_, ?_⟩
  · rw [← hbank]
    exact hgreatest
  · intro hwriteoff
    rw [← hbank]
    exact hp.writeoff_unbacked hwriteoff
  · intro hother c' recipient' w'' res' hmsg' hblock hknown' hagain
    obtain ⟨q, hq, hqbank, -⟩ := deliver_withdrawReserve hmsg' hknown' hagain
    rw [if_neg hother] at hbank'
    rw [hdenom] at hqbank
    exact hp.not_again hq hblock (by omega)

namespace Demo

/-- A year after all the cash was lent out, with seven coins in the pool. -/
def yearOfFees : List Call :=
  [call "lender" [⟨"usd", 1000⟩] .lend, call "alice" [⟨"gold", 200⟩] .addCollateral,
    call "alice" [] (.borrow 1000)]

/-- The owner withdraws the reserve, and the bank knows the seven coins. -/
def feeCall (recipient : Option String) : Call :=
  ⟨{ deps 10 with balance := fun _ _ => .ok 7 }, env 31536000, ⟨"owner", []⟩,
    .withdrawReserve recipient⟩

/-- The pool a year later, a withdrawal to the recipient, and the same one again. -/
def payTwice (recipient : Option String) :
    ContractResult (World × (World × Response) × (World × Response)) := do
  let (_, _, w) ← deployAndDeliver (deps 10) (env 0) ⟨"owner", []⟩ msg bank yearOfFees
  let first ← deliver "pool" w (feeCall recipient)
  let second ← deliver "pool" first.1 (feeCall recipient)
  return (w, first, second)

/-- The pool holds seven `usd`. -/
def holdsSeven (w : World) : Bool :=
  decide (w.bank "pool" "usd" = 7) && decide (w.pool.contract.lendingDenom.name = "usd")

theorem holdsSeven_known {w : World} (h : holdsSeven w = true) (recipient : Option String) :
    BalanceKnown "pool" w (feeCall recipient) := by
  have hboth : w.bank "pool" "usd" = 7 ∧ w.pool.contract.lendingDenom.name = "usd" := by
    simpa [holdsSeven] using h
  obtain ⟨hbank, hdenom⟩ := hboth
  intro coins hcoins
  rw [hdenom, hbank]
  have hseven : coins = 7 := (Except.ok.inj hcoins).symm
  rw [hseven]
  rfl

/-- Whether the pool has the seven coins before and after the first payment. -/
def paysTwice (recipient : Option String) : Bool :=
  match payTwice recipient with
  | .ok (w, first, _) => holdsSeven w && holdsSeven first.1
  | .error _ => false

theorem paysTwice_self : paysTwice (some "pool") = true := by
  decide +kernel

/-- The pool a year later, and one withdrawal to the owner. -/
def payOwner : ContractResult (World × World × Response) := do
  let (_, _, w) ← deployAndDeliver (deps 10) (env 0) ⟨"owner", []⟩ msg bank yearOfFees
  let (w', response) ← deliver "pool" w (feeCall none)
  return (w, w', response)

/-- The withdrawal to the owner leaves seven `usd` to the pool. -/
def paysOwner : Bool :=
  match payOwner with
  | .ok (w, _, _) => holdsSeven w
  | .error _ => false

theorem paysOwner_ok : paysOwner = true := by
  decide +kernel

end Demo

/-- Seven coins of a hundred in fees go to the owner, and the rest stays booked. -/
theorem reserveWithdrawal_backed_owner :
    ∃ (w w' : World) (res : Response) (r : ReserveStateV1) (pay left writeoff : Uint128),
      deliver "pool" w (Demo.feeCall none) = .ok (w', res) ∧
      pay.val + left.val + writeoff.val = r.accruedReserve.val ∧
      w'.pool = w.pool.setReserveStateV1 { r with accruedReserve := left } := by
  have hok := Demo.paysOwner_ok
  unfold Demo.paysOwner at hok
  split at hok
  · rename_i w w' response hrun
    simp only [Demo.payOwner, bind_eq_ok, Prod.exists, pure_eq_ok, Prod.mk.injEq] at hrun
    obtain ⟨_, _, _, -, _, _, hdeliver, rfl, rfl, rfl⟩ := hrun
    obtain ⟨r, t, toAddress, pay, left, writeoff, -, -, -, -, hsplit, -, hsaved, -⟩ :=
      reserveWithdrawal_backed rfl (Demo.holdsSeven_known hok none) hdeliver
    exact ⟨_, _, _, r, pay, left, writeoff, hdeliver, hsplit, hsaved⟩
  · cases hok

/-- The pool itself may be named as the recipient.  Its coins come back, so the same withdrawal
succeeds again in the same block. -/
theorem reserveWithdrawal_repeats :
    ∃ (w w₁ w₂ : World) (res₁ res₂ : Response),
      BalanceKnown "pool" w (Demo.feeCall (some "pool")) ∧
      deliver "pool" w (Demo.feeCall (some "pool")) = .ok (w₁, res₁) ∧
      BalanceKnown "pool" w₁ (Demo.feeCall (some "pool")) ∧
      deliver "pool" w₁ (Demo.feeCall (some "pool")) = .ok (w₂, res₂) := by
  have hok := Demo.paysTwice_self
  unfold Demo.paysTwice at hok
  split at hok
  · rename_i w first second hrun
    simp only [Demo.payTwice, bind_eq_ok, Prod.exists, pure_eq_ok, Prod.mk.injEq] at hrun
    obtain ⟨_, _, _, -, w₁, res₁, hfirst, w₂, res₂, hsecond, rfl, rfl, rfl⟩ := hrun
    rw [Bool.and_eq_true] at hok
    exact ⟨_, w₁, w₂, res₁, res₂, Demo.holdsSeven_known hok.1 _, hfirst,
      Demo.holdsSeven_known hok.2 _, hsecond⟩
  · cases hok

end DemocratizedPrime
