import DemocratizedPrime.Pool.Steps

/-!
# What the pool asks of the repo token

The pool keeps the total of the scaled units in its reserve, and the repo token keeps who
owns them.  A step of the pool changes its own total and returns messages for the token;
`TokenTraffic` says that the two agree.

`totalOf` adds up a list of calls.  With `minted`, `burned` and `spent` it gives the units
that the calls create, destroy, and take from the pool's own balance.  What a step spends
is what it received (`TokenTraffic.spent_eq`): every unit that a holder sends to the pool
is burned, forwarded or refunded.
-/

namespace DemocratizedPrime

open Result

namespace RepoTokenMsg

/-- The scaled units that a message to the token mints. -/
def minted : RepoTokenMsg → Nat
  | .mint _ amount => amount.val
  | _ => 0

/-- The scaled units that it burns. -/
def burned : RepoTokenMsg → Nat
  | .burn amount => amount.val
  | .burnFrom _ amount => amount.val
  | _ => 0

/-- What a call takes out of its sender's own balance. -/
def spent : RepoTokenMsg → Nat
  | .burn amount => amount.val
  | .transfer _ amount => amount.val
  | _ => 0

@[simp] theorem minted_transfer (recipient : String) (amount : Uint128) :
    (transfer recipient amount).minted = 0 := rfl
@[simp] theorem burned_transfer (recipient : String) (amount : Uint128) :
    (transfer recipient amount).burned = 0 := rfl
@[simp] theorem spent_transfer (recipient : String) (amount : Uint128) :
    (transfer recipient amount).spent = amount.val := rfl

end RepoTokenMsg

/-- The sum of a quantity over a list of calls. -/
def totalOf (f : RepoTokenMsg → Nat) (calls : List (Addr × RepoTokenMsg)) : Nat :=
  (calls.map fun call => f call.2).sum

@[simp] theorem totalOf_nil (f : RepoTokenMsg → Nat) : totalOf f [] = 0 := rfl

@[simp] theorem totalOf_cons (f : RepoTokenMsg → Nat) (call : Addr × RepoTokenMsg)
    (calls : List (Addr × RepoTokenMsg)) :
    totalOf f (call :: calls) = f call.2 + totalOf f calls := by
  simp [totalOf]

@[simp] theorem totalOf_append (f : RepoTokenMsg → Nat) (calls more : List (Addr × RepoTokenMsg)) :
    totalOf f (calls ++ more) = totalOf f calls + totalOf f more := by
  simp [totalOf]

/-- The units that a message hands to the pool. -/
def ExecuteMsg.received : ExecuteMsg → Nat
  | .receive cw20Msg => cw20Msg.amount.val
  | _ => 0

/-- How the messages of a step fit the step. -/
structure TokenTraffic (s : PoolStorage) (e : Event) (s' : PoolStorage) : Prop where
  target : ∀ call ∈ e.response.tokenCalls, s.contract.repoTokenCw20Address = some call.1
  supply_eq : s'.reserve.totalScaledLiquidity.val +
      totalOf RepoTokenMsg.burned e.response.tokenCalls =
    s.reserve.totalScaledLiquidity.val + totalOf RepoTokenMsg.minted e.response.tokenCalls
  spent_eq : totalOf RepoTokenMsg.spent e.response.tokenCalls = e.msg.received
  mints : ∀ token recipient amount, (token, .mint recipient amount) ∈ e.response.tokenCalls →
    recipient = e.info.sender
  burnsFrom : ∀ token owner amount, (token, .burnFrom owner amount) ∈ e.response.tokenCalls →
    e.msg.received = 0 ∧
      ∃ balance, e.deps.scaledBalance token owner = .ok balance ∧ 0 < balance.val

/-! ## What a step leaves alone -/

/-- No message changes which token the pool is bound to. -/
theorem PoolStep.repoToken_eq {s s' : PoolStorage} {e : Event} (h : PoolStep s e s') :
    s'.contract.repoTokenCw20Address = s.contract.repoTokenCw20Address :=
  h.bindings_eq.1

/-- Only loans to the pool and withdrawals change the scaled total. -/
theorem PoolStep.totalScaledLiquidity_eq {s s' : PoolStorage} {e : Event}
    (h : PoolStep s e s') (hlend : e.msg ≠ .lend) (hburn : e.msg.isWithdrawal = false) :
    s'.reserve.totalScaledLiquidity = s.reserve.totalScaledLiquidity := by
  cases h.effect with
  | neutral _ _ change => rw [change.reserve]
  | updateSupportedCollateral => rfl
  | updateContractConfig => rfl
  | addCollateral => rfl
  | lend msg => exact absurd msg hlend
  | burn msg =>
    rw [hburn] at msg
    cases msg
  | updateRateParams _ _ _ accrued => exact accrued.totalScaledLiquidity
  | borrow _ _ _ accrued => exact accrued.totalScaledLiquidity
  | repay _ _ _ accrued => exact accrued.totalScaledLiquidity
  | removeCollateral _ _ _ accrued => exact accrued.totalScaledLiquidity
  | eliminateFromReserve _ _ _ accrued => exact accrued.totalScaledLiquidity
  | eliminateFromBank _ _ _ accrued => exact accrued.totalScaledLiquidity
  | withdrawReserve _ _ _ accrued => exact accrued.totalScaledLiquidity
  | @liquidate borrower seize outgoing totals t p r' offers msg target plan booked =>
    change r'.totalScaledLiquidity = s.reserve.totalScaledLiquidity
    rw [(bookRepayment_frame booked).1]
    exact target.accrued.totalScaledLiquidity
  | @socializeDeficit maxAmount amount deficit r cut msg funds sends accrued pos haircut =>
    change cut.totalScaledLiquidity = s.reserve.totalScaledLiquidity
    rw [applyHaircut_frame haircut]
    exact accrued.totalScaledLiquidity

/-! ## The calls of a response -/

theorem Response.tokenCalls_eq {res : Response} {ms : List CosmosMsg} (h : res.messages = ms) :
    res.tokenCalls = ms.filterMap CosmosMsg.tokenCall? := by
  rw [Response.tokenCalls, h]

/-- Where only the bank is asked for something, the token is not. -/
theorem Response.tokenCalls_eq_nil {res : Response} {ms : List CosmosMsg} (h : res.messages = ms)
    (hms : ms.filterMap CosmosMsg.tokenCall? = []) : res.tokenCalls = [] := by
  rw [Response.tokenCalls_eq h, hms]

theorem refundMessages_tokenCalls (exact : Bool) (token : Addr) (sender : String)
    (received used : Uint128) :
    (refundMessages exact token sender received used).filterMap CosmosMsg.tokenCall? =
      if exact = false ∧ used.val < received.val then
        [(token, .transfer sender (received.saturatingSub used))]
      else [] := by
  unfold refundMessages
  split <;> rfl

/-- A response without a call of the token, and a total that stays. -/
theorem TokenTraffic.quiet {s s' : PoolStorage} {e : Event} (calls : e.response.tokenCalls = [])
    (received : e.msg.received = 0)
    (total : s'.reserve.totalScaledLiquidity = s.reserve.totalScaledLiquidity) :
    TokenTraffic s e s' := by
  refine ⟨?_, ?_, ?_, ?_, ?_⟩ <;> rw [calls]
  · exact fun call hcall => absurd hcall List.not_mem_nil
  · rw [total]
    rfl
  · rw [received]
    rfl
  · exact fun _ _ _ hcall => absurd hcall List.not_mem_nil
  · exact fun _ _ _ hcall => absurd hcall List.not_mem_nil

/-- One call for the units that the pool uses, and one for those it returns. -/
theorem TokenTraffic.ofReceive {s s' : PoolStorage} {e : Event} {token : Addr}
    {call : RepoTokenMsg} {sender : String} {received used : Uint128} {exact : Bool}
    (bound : s.contract.repoTokenCw20Address = some token)
    (calls : e.response.tokenCalls = (token, call) ::
      if exact = false ∧ used.val < received.val then
        [(token, .transfer sender (received.saturatingSub used))]
      else [])
    (hreceived : e.msg.received = received.val) (hle : used.val ≤ received.val)
    (hexact : exact = true → used = received)
    (hcall : call = .burn used ∨ ∃ recipient, call = .transfer recipient used)
    (htotal : s'.reserve.totalScaledLiquidity.val + call.burned =
      s.reserve.totalScaledLiquidity.val) : TokenTraffic s e s' := by
  have hspent : call.spent = used.val := by
    rcases hcall with rfl | ⟨recipient, rfl⟩ <;> rfl
  have hminted : call.minted = 0 := by
    rcases hcall with rfl | ⟨recipient, rfl⟩ <;> rfl
  have hkind : (∀ a n, call ≠ .mint a n) ∧ ∀ a n, call ≠ .burnFrom a n := by
    rcases hcall with rfl | ⟨recipient, rfl⟩
    · exact ⟨fun _ _ => nofun, fun _ _ => nofun⟩
    · exact ⟨fun _ _ => nofun, fun _ _ => nofun⟩
  by_cases hrefund : exact = false ∧ used.val < received.val
  · rw [if_pos hrefund] at calls
    refine ⟨?_, ?_, ?_, ?_, ?_⟩ <;> rw [calls]
    · simpa using bound
    · simp only [totalOf_cons, totalOf_nil, RepoTokenMsg.burned_transfer,
        RepoTokenMsg.minted_transfer, hminted]
      omega
    · simp only [totalOf_cons, totalOf_nil, RepoTokenMsg.spent_transfer, hspent, hreceived,
        Uint.saturatingSub_val]
      omega
    · intro t a n hmem
      simp [(hkind.1 a n).symm] at hmem
    · intro t a n hmem
      simp [(hkind.2 a n).symm] at hmem
  · rw [if_neg hrefund] at calls
    have hused : used.val = received.val := by
      cases exact with
      | true => rw [hexact rfl]
      | false =>
        have hnot : ¬ used.val < received.val := fun hlt => hrefund ⟨rfl, hlt⟩
        omega
    refine ⟨?_, ?_, ?_, ?_, ?_⟩ <;> rw [calls]
    · simpa using bound
    · simp only [totalOf_cons, totalOf_nil, hminted]
      omega
    · simp only [totalOf_cons, totalOf_nil, hspent, hreceived]
      omega
    · intro t a n hmem
      simp [(hkind.1 a n).symm] at hmem
    · intro t a n hmem
      simp [(hkind.2 a n).symm] at hmem

/-! ## The messages -/

theorem lend_tokenTraffic {s s' : PoolStorage} {e : Event} (hm : e.msg = .lend)
    (h : lend e.deps s e.env e.info = .ok (s', e.response)) : TokenTraffic s e s' := by
  obtain ⟨token, amount, minted, total, r, htoken, hr, -, -, -, -, htotal, rfl, hmessages⟩ :=
    lend_spec h
  have hcalls : e.response.tokenCalls = [(token, .mint e.info.sender minted)] := by
    rw [Response.tokenCalls_eq hmessages]
    rfl
  refine ⟨?_, ?_, ?_, ?_, ?_⟩ <;> rw [hcalls]
  · simpa using htoken
  · change total.val + _ = _
    rw [htotal, hr.totalScaledLiquidity]
    rfl
  · rw [hm]
    rfl
  · intro t a n hmem
    simp only [List.mem_singleton, Prod.mk.injEq, RepoTokenMsg.mint.injEq] at hmem
    exact hmem.2.1
  · intro t a n hmem
    simp at hmem

theorem executeWithdraw_tokenTraffic {s s' : PoolStorage} {e : Event} {lender : String}
    {amount : Option Uint128} {cf : Option Bool} (hm : e.msg = .withdraw lender amount cf)
    (h : executeWithdraw e.deps s e.env e.info lender amount cf = .ok (s', e.response)) :
    TokenTraffic s e s' := by
  obtain ⟨token, r, r', bal, max, t, w, htoken, -, -, hr, -, hbal, hpos, -, -, -, htotal, rfl,
    hmessages⟩ := executeWithdraw_spec h
  have hcalls : e.response.tokenCalls = [(token, .burnFrom (trim lender) w.scaledToBurn)] := by
    rw [Response.tokenCalls_eq hmessages]
    simp [List.filterMap_cons]
  refine ⟨?_, ?_, ?_, ?_, ?_⟩ <;> rw [hcalls]
  · simpa using htoken
  · rw [← hr.totalScaledLiquidity, ← htotal]
    rfl
  · rw [hm]
    rfl
  · intro t a n hmem
    simp at hmem
  · intro t a n hmem
    simp only [List.mem_singleton, Prod.mk.injEq, RepoTokenMsg.burnFrom.injEq] at hmem
    obtain ⟨rfl, rfl, -⟩ := hmem
    exact ⟨by rw [hm]; rfl, bal, hbal, hpos⟩

theorem executeWithdrawCw20_tokenTraffic {s s' : PoolStorage} {e : Event} {sender : Addr}
    {received : Uint128} {amount : Option Uint128} {exact : Bool} {cf : Option Bool}
    (hm : e.msg.received = received.val)
    (h : executeWithdrawCw20 s e.env sender received amount exact cf = .ok (s', e.response)) :
    TokenTraffic s e s' := by
  obtain ⟨token, r, r', t, w, htoken, hr, -, hw, -, htotal, rfl, hmessages⟩ :=
    executeWithdrawCw20_spec h
  obtain ⟨-, hle, -⟩ := holderWithdrawAmounts_spec hw
  have hcalls : e.response.tokenCalls = (token, .burn w.scaledToBurn) ::
      if exact = false ∧ w.scaledToBurn.val < received.val then
        [(token, .transfer sender (received.saturatingSub w.scaledToBurn))]
      else [] := by
    rw [Response.tokenCalls_eq hmessages, List.filterMap_append, refundMessages_tokenCalls]
    simp [List.filterMap_cons]
  refine .ofReceive htoken hcalls hm hle (holderWithdrawAmounts_exact hw) (Or.inl rfl) ?_
  rw [← hr.totalScaledLiquidity, ← htotal]
  rfl

theorem executeTransferCw20_tokenTraffic {s s' : PoolStorage} {e : Event} {sender : Addr}
    {received : Uint128} {recipient : String} {amount : Option Uint128} {exact : Bool}
    (hm : e.msg.received = received.val)
    (h : executeTransferCw20 e.deps s e.env sender received recipient amount exact =
      .ok (s', e.response)) : TokenTraffic s e s' := by
  obtain ⟨token, sent, htoken, rfl, -, hle, hexact, hmessages⟩ := executeTransferCw20_spec h
  have hcalls : e.response.tokenCalls = (token, .transfer recipient sent) ::
      if exact = false ∧ sent.val < received.val then
        [(token, .transfer sender (received.saturatingSub sent))]
      else [] := by
    rw [Response.tokenCalls_eq hmessages, List.filterMap_append, refundMessages_tokenCalls]
    rfl
  exact .ofReceive htoken hcalls hm hle hexact (Or.inr ⟨recipient, rfl⟩) rfl

theorem receive_tokenTraffic {s s' : PoolStorage} {e : Event} {cw20Msg : Cw20ReceiveMsg}
    (hm : e.msg = .receive cw20Msg)
    (h : receive e.deps s e.env e.info cw20Msg = .ok (s', e.response)) : TokenTraffic s e s' := by
  have hreceived : e.msg.received = cw20Msg.amount.val := by
    rw [hm]
    rfl
  obtain ⟨-, payload, -, ⟨amount, exact, cf, -, hwithdraw⟩ |
    ⟨recipient, amount, exact, -, htransfer⟩⟩ := receive_spec h
  · exact executeWithdrawCw20_tokenTraffic hreceived hwithdraw
  · exact executeTransferCw20_tokenTraffic hreceived htransfer

/-- The other messages ask the token for nothing. -/
theorem PoolStep.tokenCalls_eq_nil {s s' : PoolStorage} {e : Event} (h : PoolStep s e s')
    (hlend : e.msg ≠ .lend) (hreceive : ∀ m, e.msg ≠ .receive m)
    (hwithdraw : ∀ lender amount cf, e.msg ≠ .withdraw lender amount cf) :
    e.response.tokenCalls = [] := by
  have hd : dispatch e.deps s e.env e.info e.msg = .ok (s', e.response) := execute_eq_ok h
  cases hm : e.msg with
  | lend => exact absurd hm hlend
  | receive m => exact absurd hm (hreceive m)
  | withdraw lender amount cf => exact absurd hm (hwithdraw lender amount cf)
  | updateOwnership action =>
    rw [hm] at hd
    obtain ⟨o, -, -, hmessages⟩ := updateOwnership_spec hd
    exact Response.tokenCalls_eq_nil hmessages rfl
  | borrow amount =>
    rw [hm] at hd
    obtain ⟨r, t, debt, prices, position, total, -, -, -, -, -, -, -, -, -, -, hmessages⟩ :=
      borrow_spec hd
    refine Response.tokenCalls_eq_nil hmessages ?_
    rw [List.filterMap_append, commitMessages_tokenCalls]
    rfl
  | repay =>
    rw [hm] at hd
    obtain ⟨amount, payoff, cancelled, left, total, r, -, -, -, -, -, -, -, -, hmessages⟩ :=
      repay_spec hd
    refine Response.tokenCalls_eq_nil hmessages ?_
    unfold excessMessages
    split
    · rw [List.filterMap_cons, commitMessages_tokenCalls]
      rfl
    · rfl
  | addCollateral =>
    rw [hm] at hd
    obtain ⟨held, totals, -, -, -, -, hmessages⟩ := addCollateral_spec hd
    exact Response.tokenCalls_eq_nil hmessages rfl
  | removeCollateral toRemove =>
    rw [hm] at hd
    obtain ⟨r, debt, held, totals, -, -, -, -, -, -, -, -, hmessages⟩ := removeCollateral_spec hd
    refine Response.tokenCalls_eq_nil hmessages ?_
    rw [List.filterMap_append, commitMessages_tokenCalls]
    rfl
  | adjustDirectedCollateralSale adjustments expiresAt version =>
    rw [hm] at hd
    exact Response.tokenCalls_eq_nil (adjustDirectedCollateralSale_spec hd).2.1 rfl
  | liquidate borrower seize =>
    rw [hm] at hd
    obtain ⟨t, p, r', outgoing, totals, -, -, -, -, -, -, hmessages⟩ := liquidate_spec hd
    refine Response.tokenCalls_eq_nil hmessages ?_
    unfold sendMessages refundOf
    split <;> split <;> rfl
  | updateSupportedCollateral toUpdate toRemove =>
    rw [hm] at hd
    obtain ⟨c', -, -, -, -, -, -, hmessages⟩ := updateSupportedCollateral_spec hd
    exact Response.tokenCalls_eq_nil hmessages rfl
  | withdrawReserve recipient =>
    rw [hm] at hd
    obtain ⟨r, toAddress, t, bank, backed, pay, left, -, -, -, -, -, -, -, -, -, -, -, hmessages,
      -⟩ := withdrawReserve_spec hd
    exact Response.tokenCalls_eq_nil hmessages rfl
  | eliminateDeficit funding =>
    rw [hm] at hd
    obtain ⟨r, r', -, -, -, ⟨max, -, -, -, hmessages, -⟩ |
      ⟨received, applied, -, -, -, -, -, hmessages⟩⟩ := eliminateDeficit_spec hd
    · exact Response.tokenCalls_eq_nil hmessages rfl
    · refine Response.tokenCalls_eq_nil hmessages ?_
      split <;> rfl
  | socializeDeficit maxAmount =>
    rw [hm] at hd
    obtain ⟨r, cut, amt, deficit, -, -, -, -, -, -, -, hmessages⟩ := socializeDeficit_spec hd
    exact Response.tokenCalls_eq_nil hmessages rfl
  | setOperationalState state =>
    rw [hm] at hd
    exact Response.tokenCalls_eq_nil (setOperationalState_spec hd).2.2 rfl
  | setLenderRequiredAttrs attrs =>
    rw [hm] at hd
    exact Response.tokenCalls_eq_nil (setLenderRequiredAttrs_spec hd).2.2 rfl
  | setBorrowerRequiredAttrs attrs =>
    rw [hm] at hd
    exact Response.tokenCalls_eq_nil (setBorrowerRequiredAttrs_spec hd).2.2 rfl
  | updateContractConfig params =>
    rw [hm] at hd
    obtain ⟨c', -, -, -, -, -, -, hmessages⟩ := updateContractConfig_spec hd
    exact Response.tokenCalls_eq_nil hmessages rfl
  | updateRateParams rateParams =>
    rw [hm] at hd
    obtain ⟨r, -, -, -, -, hmessages⟩ := updateRateParams_spec hd
    exact Response.tokenCalls_eq_nil hmessages rfl
  | setBorrowerRequireCommit address require =>
    rw [hm] at hd
    exact Response.tokenCalls_eq_nil (setBorrowerRequireCommit_spec hd).2.2.2 rfl
  | setLenderRequireCommitOnExit address require =>
    rw [hm] at hd
    exact Response.tokenCalls_eq_nil (setLenderRequireCommitOnExit_spec hd).2.2.2 rfl

/-- The messages of every step fit the step. -/
theorem PoolStep.tokenTraffic {s s' : PoolStorage} {e : Event} (h : PoolStep s e s') :
    TokenTraffic s e s' := by
  have hd : dispatch e.deps s e.env e.info e.msg = .ok (s', e.response) := execute_eq_ok h
  have hquiet (hlend : e.msg ≠ .lend) (hreceive : ∀ m, e.msg ≠ .receive m)
      (hwithdraw : ∀ lender amount cf, e.msg ≠ .withdraw lender amount cf)
      (hreceived : e.msg.received = 0) (hburn : e.msg.isWithdrawal = false) :
      TokenTraffic s e s' :=
    .quiet (h.tokenCalls_eq_nil hlend hreceive hwithdraw) hreceived
      (h.totalScaledLiquidity_eq hlend hburn)
  cases hm : e.msg with
  | lend =>
    rw [hm] at hd
    exact lend_tokenTraffic hm hd
  | receive m =>
    rw [hm] at hd
    exact receive_tokenTraffic hm hd
  | withdraw lender amount cf =>
    rw [hm] at hd
    exact executeWithdraw_tokenTraffic hm hd
  | _ =>
    apply hquiet
    · simp [hm]
    · simp [hm]
    · simp [hm]
    · rw [hm]
      rfl
    · rw [hm]
      rfl

/-- Only the token can make the pool receive. -/
theorem PoolStep.receive_sender {s s' : PoolStorage} {e : Event} {m : Cw20ReceiveMsg}
    (h : PoolStep s e s') (hm : e.msg = .receive m) :
    s.contract.repoTokenCw20Address = some e.info.sender := by
  have hd : dispatch e.deps s e.env e.info e.msg = .ok (s', e.response) := execute_eq_ok h
  rw [hm] at hd
  exact (receive_spec hd).1

/-- Only the token can hand units to the pool. -/
theorem PoolStep.received_eq_zero {s s' : PoolStorage} {e : Event} (h : PoolStep s e s')
    (hsender : s.contract.repoTokenCw20Address ≠ some e.info.sender) : e.msg.received = 0 := by
  cases hm : e.msg with
  | receive cw20Msg => exact absurd (h.receive_sender hm) hsender
  | _ => rfl

end DemocratizedPrime
