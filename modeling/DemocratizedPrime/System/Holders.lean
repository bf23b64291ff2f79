import DemocratizedPrime.Pool.Holders
import DemocratizedPrime.System.InStep

/-!
# One account among the holders

A transaction reaches the pool directly or through a `Send` of the token, and
`System.poolEvent` is the call of the pool with its response, if there is one.
`TxEffect` follows the balance of an account through the transaction: what a `Send` takes
from its sender, and what the pool's calls of the token credit and debit.

`AccountEffect` puts this together with `HolderEvent`: the balance grows by what is
minted for a loan of the account, shrinks by what a withdrawal of the account burns, and
moves with the transfers of holders through the pool.  `SystemStep.accountEffect` says that
these are all.
-/

namespace DemocratizedPrime

open Result Transitions ShareLedger RepoToken

variable {w : Wiring} {tx : Tx} {sys sys' : System} {account : Addr}

/-! ## The pool's part of a transaction -/

/-- The call of the pool with this token, and its response. -/
def System.poolAnswer (w : Wiring) (tx : Tx) (sys : System) (token : TokenStorage)
    (info : MessageInfo) (msg : ExecuteMsg) : Option Event :=
  let call : Call := ⟨tx.deps.askToken w.token token, tx.env w.pool, info, msg⟩
  match execute call.deps sys.pool call.env call.info call.msg with
  | .ok (_, response) => some { call with response }
  | .error _ => none

/-- The message that the pool handles in a transaction, with its response: the one it was sent,
or the `Receive` behind a `Send` of the token. -/
def System.poolEvent (w : Wiring) (tx : Tx) (sys : System) : Option Event :=
  match tx.msg with
  | .pool msg => sys.poolAnswer w tx sys.token tx.info msg
  | .token msg =>
    match RepoToken.execute tx.deps sys.token (tx.env w.token) tx.info msg with
    | .ok (token, response) =>
      response.receive.bind fun call =>
        sys.poolAnswer w tx token ⟨w.token, []⟩ (.receive call.2)
    | .error _ => none

/-! ## The pool's calls of the token -/

namespace RepoTokenMsg

/-- What a call of the pool adds to the balance of another account. -/
def credited (account : Addr) : RepoTokenMsg → Nat
  | .mint recipient amount => if account = recipient then amount.val else 0
  | .transfer recipient amount => if account = recipient then amount.val else 0
  | _ => 0

/-- What it takes from the balance of another account. -/
def debited (account : Addr) : RepoTokenMsg → Nat
  | .burnFrom owner amount => if account = owner then amount.val else 0
  | _ => 0

end RepoTokenMsg

/-- The balance before and after, and what the pool's calls did to it. -/
def BalanceMoved (sys : System) (account : Addr) (out : Nat) (calls : List (Addr × RepoTokenMsg))
    (sys' : System) : Prop :=
  (sys'.token.balance account).val + totalOf (RepoTokenMsg.debited account) calls + out =
    (sys.token.balance account).val + totalOf (RepoTokenMsg.credited account) calls

/-- One call of the token by the pool, for another account. -/
theorem BalanceMoved.ofCall {t' : TokenStorage} {env : Env} {msg : RepoTokenMsg}
    {res : TokenResponse} (haccount : account ≠ w.pool)
    (h : RepoToken.execute tx.deps sys.token env ⟨w.pool, []⟩ msg.toExecuteMsg = .ok (t', res)) :
    BalanceMoved sys account 0 [(w.token, msg)] { sys with token := t' } := by
  have heffect := execute_effect h
  unfold BalanceMoved
  simp only [totalOf_cons, totalOf_nil, Nat.add_zero]
  cases msg with
  | mint recipient amount =>
    cases heffect with
    | mint _ _ change _ => exact change.balances.owned account
  | burn amount =>
    cases heffect with
    | burn _ _ change _ => exact (change.balances.other haccount).symm
  | burnFrom owner amount =>
    cases heffect with
    | burnFrom _ _ change _ => exact (change.balances.owned account).symm
  | transfer recipient amount =>
    cases heffect with
    | transfer _ _ elsewhere change _ =>
      have howned := change.balances.owned account
      rw [if_neg haccount, Nat.add_zero] at howned
      exact howned

theorem BalanceMoved.append {sys'' : System} {out : Nat} {calls more : List (Addr × RepoTokenMsg)}
    (h : BalanceMoved sys account out calls sys') (h' : BalanceMoved sys' account 0 more sys'') :
    BalanceMoved sys account out (calls ++ more) sys'' := by
  unfold BalanceMoved at h h' ⊢
  rw [totalOf_append, totalOf_append]
  omega

/-- The messages of the pool, executed in order. -/
theorem BalanceMoved.ofMessages {messages : List CosmosMsg} (haccount : account ≠ w.pool)
    (h : messages.foldlM (System.runMessage w tx) sys = .ok sys') :
    BalanceMoved sys account 0 (messages.filterMap CosmosMsg.tokenCall?) sys' := by
  induction messages generalizing sys with
  | nil =>
    rw [List.foldlM_nil, pure_eq_ok] at h
    rw [← h]
    rfl
  | cons m rest ih =>
    rw [List.foldlM_cons, bind_eq_ok] at h
    obtain ⟨mid, hmid, hrest⟩ := h
    have hlater := ih hrest
    cases m with
    | bankSend toAddress coins =>
      simp only [System.runMessage, bind_eq_ok, pure_eq_ok] at hmid
      obtain ⟨bank, -, rfl⟩ := hmid
      exact hlater
    | wasmExecute contractAddr msg =>
      simp only [System.runMessage, bind_eq_ok, ensure_eq_ok, exists_const, Prod.exists,
        pure_eq_ok] at hmid
      obtain ⟨rfl, token, res, hexecute, rfl⟩ := hmid
      have hfirst := BalanceMoved.ofCall haccount hexecute
      exact hfirst.append hlater
    | wasmInstantiate request => cases hmid
    | commit request =>
      simp only [System.runMessage, bind_eq_ok, pure_eq_ok] at hmid
      obtain ⟨bank, -, rfl⟩ := hmid
      exact hlater

/-! ## What a transaction does to one account -/

/-- The pool's part of a transaction and the balance of an account.  `quiet` is a
transaction that does not reach the pool, and moves no units. -/
inductive TxEffect (w : Wiring) (tx : Tx) (sys : System) (account : Addr) (sys' : System) : Prop
  | pool {e : Event} (event : sys.poolEvent w tx = some e) (env : e.env = tx.env w.pool)
      (step : PoolStep sys.pool e sys'.pool) (tx_msg : tx.msg = .pool e.msg)
      (deps : e.deps = tx.deps.askToken w.token sys.token) (info : e.info = tx.info)
      (direct : ∀ m, e.msg ≠ .receive m)
      (balance : BalanceMoved sys account 0 e.response.tokenCalls sys')
  | send {e : Event} {amount : Uint128} {body : Except String Cw20ReceivePayload}
      (event : sys.poolEvent w tx = some e) (env : e.env = tx.env w.pool)
      (step : PoolStep sys.pool e sys'.pool) (tx_msg : tx.msg = .token (.send w.pool amount body))
      (msg : e.msg = .receive ⟨tx.info.sender, amount, body⟩)
      (balance : BalanceMoved sys account (if account = tx.info.sender then amount.val else 0)
        e.response.tokenCalls sys')
  | quiet (event : sys.poolEvent w tx = none) (pool : sys'.pool = sys.pool)
      (balance : sys'.token.balance account = sys.token.balance account)

/-- The messages of the pool do not come back to it. -/
theorem runMessages_pool {messages : List CosmosMsg}
    (h : messages.foldlM (System.runMessage w tx) sys = .ok sys') : sys'.pool = sys.pool := by
  have hmessage : ∀ m (a b : System), a.runMessage w tx m = .ok b → b.pool = a.pool := by
    intro m a b hm
    cases m with
    | bankSend toAddress coins =>
      simp only [System.runMessage, bind_eq_ok, pure_eq_ok] at hm
      obtain ⟨bank, -, rfl⟩ := hm
      rfl
    | wasmExecute contractAddr msg =>
      simp only [System.runMessage, bind_eq_ok, Prod.exists, pure_eq_ok] at hm
      obtain ⟨-, -, token, res, -, rfl⟩ := hm
      rfl
    | wasmInstantiate request => cases hm
    | commit request =>
      simp only [System.runMessage, bind_eq_ok, pure_eq_ok] at hm
      obtain ⟨bank, -, rfl⟩ := hm
      rfl
  exact foldlM_ok_induct (fun _ b => b.pool = sys.pool)
    (fun _ m a b ha hm => (hmessage m a b hm).trans ha) rfl h

/-- The call of the pool is its answer, a step, and the calls that it returned. -/
theorem callPool_answer {token : TokenStorage} {bank : Bank} {info : MessageInfo}
    {msg : ExecuteMsg} (haccount : account ≠ w.pool)
    (h : System.callPool w tx { pool := sys.pool, token, bank } info msg = .ok sys') :
    ∃ e, sys.poolAnswer w tx token info msg = some e ∧ e.env = tx.env w.pool ∧
      PoolStep sys.pool e sys'.pool ∧ e.deps = tx.deps.askToken w.token token ∧ e.info = info ∧
      e.msg = msg ∧ BalanceMoved { sys with token } account 0 e.response.tokenCalls sys' := by
  simp only [System.callPool, bind_eq_ok, Prod.exists] at h
  obtain ⟨pool, response, hexecute, hmessages⟩ := h
  have hmoved := BalanceMoved.ofMessages haccount hmessages
  have hpool := runMessages_pool hmessages
  refine ⟨⟨⟨tx.deps.askToken w.token token, tx.env w.pool, info, msg⟩, response⟩, ?_, rfl, ?_, rfl,
    rfl, rfl, hmoved⟩
  · unfold System.poolAnswer
    dsimp only
    rw [hexecute]
  · rw [hpool]
    exact hexecute

/-- A transaction that the token answers alone. -/
theorem TxEffect.ofQuiet {token : TokenStorage} {bank : Bank} {response : TokenResponse}
    {msg : RepoToken.ExecuteMsg} (hmsg : tx.msg = .token msg)
    (hexecute : RepoToken.execute tx.deps sys.token (tx.env w.token) tx.info msg =
      .ok (token, response)) (hquiet : response.receive = none)
    (hbalances : token.balances = sys.token.balances) :
    TxEffect w tx sys account { pool := sys.pool, token, bank } := by
  refine .quiet ?_ rfl ?_
  · unfold System.poolEvent
    rw [hmsg]
    dsimp only
    rw [hexecute]
    dsimp only
    rw [hquiet]
    rfl
  · show owned token.balances account = owned sys.token.balances account
    rw [hbalances]

/-- Every transaction is one of the three. -/
theorem SystemStep.txEffect (h : SystemStep w sys tx sys') (hwired : Wired w sys.token)
    (hbound : sys.pool.contract.repoTokenCw20Address = some w.token) (haccount : account ≠ w.pool) :
    TxEffect w tx sys account sys' := by
  simp only [SystemStep, System.transact, bind_eq_ok, ensure_eq_ok, exists_const] at h
  obtain ⟨⟨hpool, htoken⟩, h⟩ := h
  split at h
  · rename_i msg hmsg
    simp only [bind_eq_ok] at h
    obtain ⟨bank, -, h⟩ := h
    obtain ⟨e, hanswer, henv, hstep, hdeps, hinfo, rfl, hmoved⟩ := callPool_answer haccount h
    refine .pool ?_ henv hstep hmsg hdeps hinfo (fun m hm => ?_) hmoved
    · unfold System.poolEvent
      rw [hmsg]
      exact hanswer
    · have hsender := hstep.receive_sender hm
      rw [hbound, hinfo] at hsender
      exact htoken (Option.some.inj hsender).symm
  · rename_i msg hmsg
    simp only [bind_eq_ok] at h
    obtain ⟨bank, -, h⟩ := h
    obtain ⟨token, response, hexecute, ⟨hquiet, hbalances, -, rfl⟩ |
      ⟨amount, body, rfl, change, call, h⟩⟩ := callToken_cases h hpool hwired
    · exact .ofQuiet hmsg hexecute hquiet hbalances
    · obtain ⟨e, hanswer, henv, hstep, -, hinfo, hm, hmoved⟩ := callPool_answer haccount h
      refine .send ?_ henv hstep hmsg hm ?_
      · unfold System.poolEvent
        rw [hmsg]
        dsimp only
        rw [hexecute]
        dsimp only
        rw [call]
        exact hanswer
      · have hsent := change.balances.owned account
        rw [if_neg haccount, Nat.add_zero] at hsent
        have hbefore : (sys.token.balance account).val =
            (owned token.balances account).val +
              if account = tx.info.sender then amount.val else 0 := hsent.symm
        unfold BalanceMoved at hmoved ⊢
        rw [hbefore]
        have hmid : ({ sys with token := token } : System).token.balance account =
          owned token.balances account := rfl
        rw [hmid] at hmoved
        omega

/-! ## Loans, withdrawals and transfers -/

/-- Whose tokens the message withdraws. -/
def ExecuteMsg.withdrawer? : ExecuteMsg → Option Addr
  | .withdraw lender _ _ => some (trim lender)
  | .receive cw20Msg =>
    match cw20Msg.payload with
    | .ok (.withdraw ..) | .ok (.withdrawExact ..) => some cw20Msg.sender
    | _ => none
  | _ => none

theorem withdrawer?_receive {holder : Addr} {received : Uint128} {payload : Cw20ReceivePayload}
    {exact : Bool} {commitFunds : Option Bool} (h : payload.Withdraws exact commitFunds) :
    (ExecuteMsg.receive ⟨holder, received, .ok payload⟩).withdrawer? = some holder := by
  cases h with
  | amount => rfl
  | all => rfl

theorem withdrawer?_eq_none {m : ExecuteMsg} (hreceive : ∀ cw20Msg, m ≠ .receive cw20Msg)
    (hwithdraw : ∀ lender amount commitFunds, m ≠ .withdraw lender amount commitFunds) :
    m.withdrawer? = none := by
  cases m with
  | receive cw20Msg => exact absurd rfl (hreceive cw20Msg)
  | withdraw lender amount commitFunds => exact absurd rfl (hwithdraw lender amount commitFunds)
  | _ => rfl

/-- What an event of the pool does to the balance of an account. -/
inductive AccountEffect (sys : System) (e : Event) (account : Addr) (sys' : System) : Prop
  | lend {amount minted : Uint128} {r : ReserveStateV1} (msg : e.msg = .lend)
      (sender : e.info.sender = account)
      (funds : e.info.funds = [⟨sys.pool.contract.lendingDenom.name, amount⟩])
      (accrued : AccruedTo sys.pool e.env.blockTime r)
      (minted_eq : minted.val = amount.val * decimalFractional / r.liquidityIndex.atomics)
      (index : sys'.pool.reserve.liquidityIndex = r.liquidityIndex)
      (balance : (sys'.token.balance account).val = (sys.token.balance account).val + minted.val)
  | withdraw {burned paid : Uint128} (withdrawer : e.msg.withdrawer? = some account)
      (burned_eq : totalOf RepoTokenMsg.burned e.response.tokenCalls = burned.val)
      (sends : e.response.bankSends =
        [(account, [⟨sys.pool.contract.lendingDenom.name, paid⟩])])
      (redeemed : Redeemed sys.pool e burned paid sys'.pool)
      (balance : (sys'.token.balance account).val + burned.val = (sys.token.balance account).val)
  | transfer {holder recipient : Addr} {received sent : Uint128} {exact : Bool}
      {payload : Cw20ReceivePayload} (msg : e.msg = .receive ⟨holder, received, .ok payload⟩)
      (body : payload.Transfers exact recipient)
      (rule : sys.pool.getLenderRequireCommitOnExit holder = false) (same : sys'.pool = sys.pool)
      (balance : (sys'.token.balance account).val + (if account = holder then sent.val else 0) =
        (sys.token.balance account).val + if account = recipient then sent.val else 0)
  | other (lend : e.msg = .lend → e.info.sender ≠ account)
      (withdrawer : e.msg.withdrawer? ≠ some account)
      (balance : sys'.token.balance account = sys.token.balance account)

theorem withdrawalMessages_tokenCalls (s : PoolStorage) (e : Event) (token holder : Addr)
    (burn : RepoTokenMsg) (paid : Uint128) (commitFunds : Option Bool) :
    (withdrawalMessages s e token burn holder paid commitFunds).filterMap CosmosMsg.tokenCall? =
      [(token, burn)] := by
  rw [withdrawalMessages, List.filterMap_append, commitMessages_tokenCalls]
  rfl

theorem withdrawalMessages_bankSends (s : PoolStorage) (e : Event) (token holder : Addr)
    (burn : RepoTokenMsg) (paid : Uint128) (commitFunds : Option Bool) :
    (withdrawalMessages s e token burn holder paid commitFunds).filterMap CosmosMsg.bankSend? =
      [(holder, [⟨s.contract.lendingDenom.name, paid⟩])] := by
  rw [withdrawalMessages, List.filterMap_append, commitMessages_bankSends]
  rfl

/-- What a refund is worth: all that was received and not used. -/
theorem refund_credited {exact : Bool} {token holder account : Addr} {received used : Uint128}
    (hused : used.val ≤ received.val) (hall : exact = true → used = received) :
    totalOf (RepoTokenMsg.credited account)
        ((refundMessages exact token holder received used).filterMap CosmosMsg.tokenCall?) =
      if account = holder then received.val - used.val else 0 := by
  rw [refundMessages_tokenCalls]
  split
  · simp [RepoTokenMsg.credited]
  · rename_i hno
    have hzero : received.val - used.val = 0 := by
      cases exact with
      | true =>
        rw [hall rfl]
        exact Nat.sub_self _
      | false =>
        have hnot : ¬ used.val < received.val := fun hlt => hno ⟨rfl, hlt⟩
        omega
    rw [hzero, totalOf_nil, ite_self]

theorem refund_totalOf_eq_zero {exact : Bool} {token holder : Addr} {received used : Uint128}
    (f : RepoTokenMsg → Nat) (hf : ∀ recipient amount, f (.transfer recipient amount) = 0) :
    totalOf f ((refundMessages exact token holder received used).filterMap
      CosmosMsg.tokenCall?) = 0 := by
  rw [refundMessages_tokenCalls]
  split
  · rw [totalOf_cons, totalOf_nil, hf]
  · rfl

/-- A message that an account sent to the pool itself. -/
theorem AccountEffect.ofPool {e : Event} (h : HolderEvent sys.pool e sys'.pool)
    (direct : ∀ m, e.msg ≠ .receive m)
    (moved : BalanceMoved sys account 0 e.response.tokenCalls sys') :
    AccountEffect sys e account sys' := by
  unfold BalanceMoved at moved
  cases h with
  | @lend token amount minted r msg funds messages accrued minted_eq index =>
    have hcalls : e.response.tokenCalls = [(token, .mint e.info.sender minted)] :=
      Response.tokenCalls_eq messages
    rw [hcalls] at moved
    simp only [totalOf_cons, totalOf_nil, RepoTokenMsg.debited, RepoTokenMsg.credited,
      Nat.add_zero] at moved
    by_cases hsender : account = e.info.sender
    · rw [if_pos hsender] at moved
      exact .lend msg hsender.symm funds accrued minted_eq index moved
    · rw [if_neg hsender] at moved
      refine .other (fun _ he => hsender he.symm) ?_ (Uint.ext moved)
      rw [msg]
      exact (Option.some_ne_none account).symm
  | withdraw msg => exact absurd msg (direct _)
  | transfer msg => exact absurd msg (direct _)
  | @ownerWithdraw token lender amount commitFunds burned paid msg owner messages redeemed =>
    have hcalls : e.response.tokenCalls = [(token, .burnFrom (trim lender) burned)] :=
      (Response.tokenCalls_eq messages).trans (withdrawalMessages_tokenCalls ..)
    have hwithdrawer : e.msg.withdrawer? = some (trim lender) := by rw [msg, ExecuteMsg.withdrawer?]
    rw [hcalls] at moved
    simp only [totalOf_cons, totalOf_nil, RepoTokenMsg.debited, RepoTokenMsg.credited,
      Nat.add_zero] at moved
    by_cases hlender : account = trim lender
    · rw [if_pos hlender] at moved
      rw [← hlender] at hwithdrawer messages
      refine .withdraw hwithdrawer ?_ ?_ redeemed moved
      · rw [hcalls]
        simp [RepoTokenMsg.burned]
      · exact (bankSends_eq messages).trans (withdrawalMessages_bankSends ..)
    · rw [if_neg hlender] at moved
      refine .other (fun hlend => ?_) ?_ (Uint.ext moved)
      · rw [msg] at hlend
        cases hlend
      · rw [hwithdrawer]
        exact fun he => hlender (Option.some.inj he).symm
  | quiet lend receive withdraw calls =>
    rw [calls] at moved
    refine .other (fun hlend => absurd hlend lend) ?_ (Uint.ext moved)
    rw [withdrawer?_eq_none direct withdraw]
    exact (Option.some_ne_none account).symm

/-- A `Send` of an account to the pool. -/
theorem AccountEffect.ofSend {e : Event} {sender : Addr} {amount : Uint128}
    {body : Except String Cw20ReceivePayload} (h : HolderEvent sys.pool e sys'.pool)
    (hmsg : e.msg = .receive ⟨sender, amount, body⟩)
    (moved : BalanceMoved sys account (if account = sender then amount.val else 0)
      e.response.tokenCalls sys') : AccountEffect sys e account sys' := by
  unfold BalanceMoved at moved
  cases h with
  | lend msg =>
    rw [hmsg] at msg
    cases msg
  | @withdraw token holder received burned paid exact commitFunds payload msg body messages rule
      market burned_le burned_all redeemed =>
    rw [hmsg] at msg
    cases msg
    have hcalls : e.response.tokenCalls = (token, .burn burned) ::
        (refundMessages exact token sender amount burned).filterMap CosmosMsg.tokenCall? := by
      rw [Response.tokenCalls_eq messages, List.filterMap_append, withdrawalMessages_tokenCalls]
      rfl
    have hwithdrawer : e.msg.withdrawer? = some sender := by rw [hmsg, withdrawer?_receive body]
    rw [hcalls, totalOf_cons, totalOf_cons, refund_credited burned_le burned_all,
      refund_totalOf_eq_zero _ fun _ _ => rfl] at moved
    simp only [RepoTokenMsg.debited, RepoTokenMsg.credited, Nat.zero_add] at moved
    by_cases hholder : account = sender
    · rw [if_pos hholder, if_pos hholder] at moved
      rw [← hholder] at hwithdrawer messages
      refine .withdraw hwithdrawer ?_ ?_ redeemed (by omega)
      · rw [hcalls, totalOf_cons, refund_totalOf_eq_zero _ fun _ _ => rfl]
        rfl
      · rw [bankSends_eq messages, List.filterMap_append, withdrawalMessages_bankSends,
          refundMessages_bankSends]
        rfl
    · rw [if_neg hholder, if_neg hholder] at moved
      refine .other (fun hlend => ?_) ?_ (Uint.ext moved)
      · rw [hmsg] at hlend
        cases hlend
      · rw [hwithdrawer]
        exact fun he => hholder (Option.some.inj he).symm
  | @transfer token holder received sent exact recipient payload msg body messages rule same
      sent_le sent_all =>
    rw [hmsg] at msg
    cases msg
    have hcalls : e.response.tokenCalls = (token, .transfer recipient sent) ::
        (refundMessages exact token sender amount sent).filterMap CosmosMsg.tokenCall? := by
      rw [Response.tokenCalls_eq messages, List.filterMap_append]
      rfl
    rw [hcalls, totalOf_cons, totalOf_cons, refund_credited sent_le sent_all,
      refund_totalOf_eq_zero _ fun _ _ => rfl] at moved
    simp only [RepoTokenMsg.debited, RepoTokenMsg.credited] at moved
    have hbalance : (sys'.token.balance account).val + (if account = sender then sent.val else 0) =
        (sys.token.balance account).val + if account = recipient then sent.val else 0 := by
      by_cases hholder : account = sender
      · rw [if_pos hholder, if_pos hholder] at moved
        rw [if_pos hholder]
        omega
      · rw [if_neg hholder, if_neg hholder] at moved
        rw [if_neg hholder]
        omega
    exact .transfer hmsg body rule same hbalance
  | ownerWithdraw msg =>
    rw [hmsg] at msg
    cases msg
  | quiet _ receive => exact absurd hmsg (receive _)

/-- A transaction that reaches the pool does to the account what the event says, and any
other leaves the pool and the account alone. -/
theorem SystemStep.accountEffect (h : SystemStep w sys tx sys') (hwired : Wired w sys.token)
    (hbound : sys.pool.contract.repoTokenCw20Address = some w.token) (haccount : account ≠ w.pool) :
    (∃ e, sys.poolEvent w tx = some e ∧ e.env = tx.env w.pool ∧
        PoolStep sys.pool e sys'.pool ∧ AccountEffect sys e account sys') ∨
      (sys.poolEvent w tx = none ∧ sys'.pool = sys.pool ∧
        sys'.token.balance account = sys.token.balance account) := by
  cases h.txEffect hwired hbound haccount with
  | pool event env step _ _ _ direct balance =>
    exact Or.inl ⟨_, event, env, step, .ofPool step.holderEvent direct balance⟩
  | send event env step _ msg balance =>
    exact Or.inl ⟨_, event, env, step, .ofSend step.holderEvent msg balance⟩
  | quiet event pool balance => exact Or.inr ⟨event, pool, balance⟩

end DemocratizedPrime
