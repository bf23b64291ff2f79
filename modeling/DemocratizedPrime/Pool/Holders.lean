import DemocratizedPrime.Pool.TokenCalls

/-!
# The holders of repo tokens

A holder lends to the pool, withdraws by sending tokens to it, or passes tokens on through
it; and the owner may withdraw for a holder.  `HolderEvent s e s'` is one of these, with
all the messages that the pool answers with, or an event that has nothing to do with
holders.  `PoolStep.holderEvent` says that the list is complete.
-/

namespace DemocratizedPrime

open Result

variable {s s' : PoolStorage} {e : Event}

/-- The burn of a withdrawal, its payment, and the commitment of the payment. -/
def withdrawalMessages (s : PoolStorage) (e : Event) (token : Addr) (burn : RepoTokenMsg)
    (holder : Addr) (paid : Uint128) (commitFunds : Option Bool) : List CosmosMsg :=
  [.wasmExecute token burn, .bankSend holder [⟨s.contract.lendingDenom.name, paid⟩]] ++
    commitMessages (commitFunds == some true) s.contract e.env.contractAddress "withdraw" holder
      [⟨s.contract.lendingDenom.name, paid⟩]

/-- Units are burned at the accrued index, and their value is paid. -/
structure Redeemed (s : PoolStorage) (e : Event) (burned paid : Uint128) (s' : PoolStorage) :
    Prop where
  accrued : ∃ r, AccruedTo s e.env.blockTime r ∧ s'.reserve.liquidityIndex = r.liquidityIndex
  paid_eq : paid.val = burned.val * s'.reserve.liquidityIndex.atomics / decimalFractional

/-- What a message does for the holders of repo tokens: the cases that mint, burn or pay, and
the rest. -/
inductive HolderEvent (s : PoolStorage) (e : Event) (s' : PoolStorage) : Prop
  | lend {token : Addr} {amount minted : Uint128} {r : ReserveStateV1} (msg : e.msg = .lend)
      (funds : e.info.funds = [⟨s.contract.lendingDenom.name, amount⟩])
      (messages : e.response.messages = [.wasmExecute token (.mint e.info.sender minted)])
      (accrued : AccruedTo s e.env.blockTime r)
      (minted_eq : minted.val = amount.val * decimalFractional / r.liquidityIndex.atomics)
      (index : s'.reserve.liquidityIndex = r.liquidityIndex)
  | withdraw {token holder : Addr} {received burned paid : Uint128} {exact : Bool}
      {commitFunds : Option Bool} {payload : Cw20ReceivePayload}
      (msg : e.msg = .receive ⟨holder, received, .ok payload⟩)
      (body : payload.Withdraws exact commitFunds)
      (messages : e.response.messages =
        withdrawalMessages s e token (.burn burned) holder paid commitFunds ++
          refundMessages exact token holder received burned)
      (rule : s.getLenderRequireCommitOnExit holder = true → commitFunds = some true)
      (market : commitFunds = some true → s.contract.commitMarketId.isSome = true)
      (burned_le : burned.val ≤ received.val) (burned_all : exact = true → burned = received)
      (redeemed : Redeemed s e burned paid s')
  | transfer {token holder : Addr} {received sent : Uint128} {exact : Bool} {recipient : String}
      {payload : Cw20ReceivePayload} (msg : e.msg = .receive ⟨holder, received, .ok payload⟩)
      (body : payload.Transfers exact recipient)
      (messages : e.response.messages = [.wasmExecute token (.transfer recipient sent)] ++
        refundMessages exact token holder received sent)
      (rule : s.getLenderRequireCommitOnExit holder = false) (same : s' = s)
      (sent_le : sent.val ≤ received.val) (sent_all : exact = true → sent = received)
  | ownerWithdraw {token : Addr} {lender : String} {amount : Option Uint128}
      {commitFunds : Option Bool} {burned paid : Uint128}
      (msg : e.msg = .withdraw lender amount commitFunds)
      (owner : s.ownership.owner = some e.info.sender)
      (messages : e.response.messages = withdrawalMessages s e token
        (.burnFrom (trim lender) burned) (trim lender) paid commitFunds)
      (redeemed : Redeemed s e burned paid s')
  | quiet (lend : e.msg ≠ .lend) (receive : ∀ m, e.msg ≠ .receive m)
      (withdraw : ∀ lender amount commitFunds, e.msg ≠ .withdraw lender amount commitFunds)
      (calls : e.response.tokenCalls = [])

/-- A commitment is asked for only when there is a market to commit to. -/
theorem addCommitMessage_market {res res' : Response} {c : ContractStateV1}
    {pool account : Addr} {action : String} {funds : List Coin}
    (h : addCommitMessage res true c pool action account funds = .ok res') :
    c.commitMarketId.isSome = true := by
  simp only [addCommitMessage, if_true, newCommitMessage, bind_eq_ok, okOr_eq_ok] at h
  obtain ⟨_, ⟨market, hmarket, -⟩, -⟩ := h
  rw [hmarket]
  rfl

/-- A withdrawal of a holder respects the holder's commit rule. -/
theorem executeWithdrawCw20_rule {env : Env} {sender : Addr} {received : Uint128}
    {amount : Option Uint128} {exact : Bool} {cf : Option Bool} {res : Response}
    (h : executeWithdrawCw20 s env sender received amount exact cf = .ok (s', res)) :
    (s.getLenderRequireCommitOnExit sender = true → cf = some true) ∧
      (cf = some true → s.contract.commitMarketId.isSome = true) := by
  simp only [executeWithdrawCw20, bind_eq_ok, Prod.exists, ensure_eq_ok, exists_const] at h
  obtain ⟨-, _, -, hrule, _, _, -, _, -, _, -, _, _, -, _, hcommit, -⟩ := h
  refine ⟨fun hflag => ?_, fun hcf => ?_⟩
  · rcases hrule with hnone | hsome
    · rw [hflag] at hnone
      cases hnone
    · exact hsome
  · rw [hcf] at hcommit
    exact addCommitMessage_market hcommit

/-- A holder who has to commit cannot pass tokens on. -/
theorem executeTransferCw20_rule {deps : Deps} {env : Env} {sender : Addr} {received : Uint128}
    {recipient : String} {amount : Option Uint128} {exact : Bool} {res : Response}
    (h : executeTransferCw20 deps s env sender received recipient amount exact = .ok (s', res)) :
    s.getLenderRequireCommitOnExit sender = false := by
  simp only [executeTransferCw20, bind_eq_ok, ensure_eq_ok, exists_const] at h
  exact h.2.1

theorem executeWithdrawCw20_holderEvent {holder : Addr} {received : Uint128}
    {amount : Option Uint128} {exact : Bool} {cf : Option Bool} {payload : Cw20ReceivePayload}
    (hm : e.msg = .receive ⟨holder, received, .ok payload⟩) (hbody : payload.Withdraws exact cf)
    (h : executeWithdrawCw20 s e.env holder received amount exact cf = .ok (s', e.response)) :
    HolderEvent s e s' := by
  obtain ⟨hrule, hmarket⟩ := executeWithdrawCw20_rule h
  obtain ⟨token, r, r', t, w, -, hr, -, hw, hr', -, rfl, hmessages⟩ := executeWithdrawCw20_spec h
  obtain ⟨hpaid, hle, -⟩ := holderWithdrawAmounts_spec hw
  have hindex : r'.liquidityIndex = r.liquidityIndex := by rw [hr']
  refine .withdraw hm hbody hmessages hrule hmarket hle (holderWithdrawAmounts_exact hw)
    ⟨⟨r, hr, hindex⟩, ?_⟩
  show _ = _ * r'.liquidityIndex.atomics / _
  rw [hindex]
  exact hpaid

theorem executeTransferCw20_holderEvent {holder : Addr} {received : Uint128} {recipient : String}
    {amount : Option Uint128} {exact : Bool} {payload : Cw20ReceivePayload}
    (hm : e.msg = .receive ⟨holder, received, .ok payload⟩)
    (hbody : payload.Transfers exact recipient)
    (h : executeTransferCw20 e.deps s e.env holder received recipient amount exact =
      .ok (s', e.response)) : HolderEvent s e s' := by
  have hrule := executeTransferCw20_rule h
  obtain ⟨token, sent, -, hsame, -, hle, hall, hmessages⟩ := executeTransferCw20_spec h
  exact .transfer hm hbody hmessages hrule hsame hle hall

/-- Every step is one of the events. -/
theorem PoolStep.holderEvent (h : PoolStep s e s') : HolderEvent s e s' := by
  have hd : dispatch e.deps s e.env e.info e.msg = .ok (s', e.response) := execute_eq_ok h
  have hquiet (hlend : e.msg ≠ .lend) (hreceive : ∀ m, e.msg ≠ .receive m)
      (hwithdraw : ∀ lender amount cf, e.msg ≠ .withdraw lender amount cf) :
      HolderEvent s e s' :=
    .quiet hlend hreceive hwithdraw (h.tokenCalls_eq_nil hlend hreceive hwithdraw)
  cases hm : e.msg with
  | lend =>
    rw [hm] at hd
    obtain ⟨token, amount, minted, total, r, -, hr, hfunds, -, hminted, -, -, rfl, hmessages⟩ :=
      lend_spec hd
    exact .lend hm hfunds hmessages hr hminted rfl
  | receive m =>
    rw [hm] at hd
    obtain ⟨holder, received, body⟩ := m
    obtain ⟨-, payload, rfl, ⟨amount, exact, cf, hbody, hwithdraw⟩ |
      ⟨recipient, amount, exact, hbody, htransfer⟩⟩ := receive_spec hd
    · exact executeWithdrawCw20_holderEvent hm hbody hwithdraw
    · exact executeTransferCw20_holderEvent hm hbody htransfer
  | withdraw lender amount cf =>
    rw [hm] at hd
    obtain ⟨token, r, r', bal, max, t, w, -, howner, -, hr, -, -, -, -, hw, hr', -, rfl,
      hmessages⟩ := executeWithdraw_spec hd
    have hindex : r'.liquidityIndex = r.liquidityIndex := by rw [hr']
    refine .ownerWithdraw hm howner hmessages ⟨⟨r, hr, hindex⟩, ?_⟩
    show _ = _ * r'.liquidityIndex.atomics / _
    rw [hindex]
    exact (ownerWithdrawAmounts_spec hw).1
  | _ => exact hquiet (by simp [hm]) (by simp [hm]) (by simp [hm])

end DemocratizedPrime
