import DemocratizedPrime.Pool.Holders
import DemocratizedPrime.Pool.Records

/-!
# Commit rules

The owner can rule that what the pool pays to an account is committed to an exchange
market at once.

* `MarketSet`: while a rule is on there is a market to commit to.  A rule cannot be
  switched on without one, and a market can be replaced but not removed.
* `CommitGuarded x`: in the step `x`, a borrower under the rule is paid in commitments
  only, and so is a holder of repo tokens, who cannot pass the tokens on either.
-/

namespace DemocratizedPrime

open Result Transitions

variable {s s' : PoolStorage} {e : Event}

/-- While a rule is on there is a market to commit to. -/
def MarketSet (s : PoolStorage) : Prop :=
  ∀ account, s.getBorrowerRequireCommit account = true ∨
    s.getLenderRequireCommitOnExit account = true → s.contract.commitMarketId.isSome = true

/-- The coins are paid to the account and committed in the next message, and the other
messages neither pay nor commit. -/
def PaysCommitted (s : PoolStorage) (e : Event) (account : Addr) (coins : List Coin) : Prop :=
  ∃ market tag before after, s.contract.commitMarketId = some market ∧
    e.response.messages = before ++ [.bankSend account coins,
      .commit ⟨e.env.contractAddress, account, market, coins, tag⟩] ++ after ∧
    ∀ m ∈ before ++ after, m.tokenCall?.isSome = true

/-- The messages that pay their sender as a borrower. -/
def ExecuteMsg.paysBorrower : ExecuteMsg → Bool
  | .borrow .. | .repay | .removeCollateral .. => true
  | _ => false

/-- What the commit rules make sure of in a transition. -/
structure CommitGuarded (x : Transition PoolStorage Event) : Prop where
  borrower : x.label.msg.paysBorrower = true →
    x.pre.getBorrowerRequireCommit x.label.info.sender = true →
      x.label.response.messages = [] ∨
        ∃ coins, PaysCommitted x.pre x.label x.label.info.sender coins
  lender : ∀ holder received body, x.label.msg = .receive ⟨holder, received, body⟩ →
    x.pre.getLenderRequireCommitOnExit holder = true →
      (∃ payload exact commitFunds, body = .ok payload ∧ payload.Withdraws exact commitFunds) ∧
        ∃ paid, PaysCommitted x.pre x.label holder [⟨x.pre.contract.lendingDenom.name, paid⟩]

/-! ## The market -/

/-- No step takes the market away. -/
theorem PoolStep.market_isSome (h : PoolStep s e s')
    (hmarket : s.contract.commitMarketId.isSome = true) :
    s'.contract.commitMarketId.isSome = true := by
  cases h.effect with
  | neutral _ _ change =>
    rw [change.contract]
    exact hmarket
  | updateSupportedCollateral _ _ _ contract =>
    rw [PoolStorage.setContractStateV1_contract, contract]
    exact hmarket
  | updateContractConfig _ _ _ applied => exact applyConfigParams_market applied hmarket
  | _ => exact hmarket

/-- The owner's answer is read as `true` only when it was `true`. -/
theorem eq_some_of_getD {require : Option Bool} (h : require.getD false = true) :
    require = some true := by
  cases require with
  | none => cases h
  | some r => exact congrArg some h

/-- What is a rule after one was set or lifted was one before, or is the new one. -/
theorem rule_of_set {rules : Std.ExtTreeMap Addr Unit} {address account : Addr} {require : Bool}
    (h : (if require then rules.insert address () else rules.erase address).contains account =
      true) : rules.contains account = true ∨ require = true := by
  cases require with
  | true => exact Or.inr rfl
  | false => exact Or.inl (Std.ExtTreeMap.contains_of_contains_erase h)

/-- Same records, same rules. -/
theorem SameRecords.rules (h : SameRecords s s') (account : Addr) :
    s'.getBorrowerRequireCommit account = s.getBorrowerRequireCommit account ∧
      s'.getLenderRequireCommitOnExit account = s.getLenderRequireCommitOnExit account := by
  unfold PoolStorage.getBorrowerRequireCommit PoolStorage.getLenderRequireCommitOnExit
  rw [h.borrowerRules, h.lenderRules]
  exact ⟨rfl, rfl⟩

/-- A rule that is on after a step was on before, or there is a market. -/
theorem PoolStep.rule_cases {account : Addr} (h : PoolStep s e s')
    (hrule : s'.getBorrowerRequireCommit account = true ∨
      s'.getLenderRequireCommitOnExit account = true) :
    (s.getBorrowerRequireCommit account = true ∨ s.getLenderRequireCommitOnExit account = true) ∨
      s.contract.commitMarketId.isSome = true := by
  cases h.records with
  | none _ same =>
    obtain ⟨hborrower, hlender⟩ := same.rules account
    rw [hborrower, hlender] at hrule
    exact Or.inl hrule
  | adjust _ adjusted =>
    obtain ⟨-, -, rfl | ⟨offer, rfl⟩⟩ := adjustDirectedCollateralSale_spec adjusted
    · exact Or.inl hrule
    · exact Or.inl hrule
  | @liquidate borrower seize t _ _ shrunk =>
    obtain ⟨hborrower, hlender⟩ := shrunk.rules account
    rw [hborrower, hlender, shrinkOffer_eq] at hrule
    exact Or.inl hrule
  | @borrowerRule address require _ market set =>
    rw [set] at hrule
    rcases hrule with hborrower | hlender
    · rcases rule_of_set hborrower with hold | hnew
      · exact Or.inl (Or.inl hold)
      · exact Or.inr (market (eq_some_of_getD hnew))
    · exact Or.inl (Or.inr hlender)
  | @lenderRule address require _ market set =>
    rw [set] at hrule
    rcases hrule with hborrower | hlender
    · exact Or.inl (Or.inl hborrower)
    · rcases rule_of_set hlender with hold | hnew
      · exact Or.inl (Or.inr hold)
      · exact Or.inr (market (eq_some_of_getD hnew))

theorem MarketSet.step (hs : MarketSet s) (h : PoolStep s e s') : MarketSet s' := by
  intro account hrule
  apply h.market_isSome
  rcases h.rule_cases hrule with hold | hmarket
  · exact hs account hold
  · exact hmarket

theorem NoRecords.marketSet (h : NoRecords s) : MarketSet s := by
  intro account hrule
  unfold PoolStorage.getBorrowerRequireCommit PoolStorage.getLenderRequireCommitOnExit at hrule
  rw [h.borrowerRules, h.lenderRules] at hrule
  rcases hrule with hrule | hrule
  · cases hrule
  · cases hrule

theorem Reachable.marketSet (h : Reachable s) : MarketSet s := by
  obtain ⟨t, s₀, ts, hdeployed, run⟩ := h
  exact run.invariant (fun _ _ _ hs hstep => hs.step hstep) hdeployed.noRecords.marketSet

/-! ## Payments -/

theorem commitMessages_market {c : ContractStateV1} {pool account : Addr} {action : String}
    {coins : List Coin} {market : Nat} (hmarket : c.commitMarketId = some market) :
    commitMessages true c pool action account coins =
      [.commit ⟨pool, account, market, coins, newEventTag action account⟩] := by
  simp [commitMessages, hmarket]

/-- A send with the commitment that the rule asks for. -/
theorem PaysCommitted.ofMessages {account : Addr} {action : String} {coins : List Coin}
    (before after : List CosmosMsg) (hmarket : s.contract.commitMarketId.isSome = true)
    (hmessages : e.response.messages = before ++ ([.bankSend account coins] ++
      commitMessages true s.contract e.env.contractAddress action account coins) ++ after)
    (hcalls : ∀ m ∈ before ++ after, m.tokenCall?.isSome = true) :
    PaysCommitted s e account coins := by
  obtain ⟨market, hmarket⟩ := Option.isSome_iff_exists.mp hmarket
  rw [commitMessages_market hmarket] at hmessages
  exact ⟨market, newEventTag action account, before, after, hmarket, hmessages, hcalls⟩

/-- The whole response of a borrower's message. -/
theorem PaysCommitted.ofResponse {account : Addr} {action : String} {coins : List Coin}
    (hmarket : s.contract.commitMarketId.isSome = true)
    (hmessages : e.response.messages = [.bankSend account coins] ++
      commitMessages true s.contract e.env.contractAddress action account coins) :
    PaysCommitted s e account coins := by
  apply PaysCommitted.ofMessages [] [] hmarket
  · rw [hmessages, List.nil_append, List.append_nil]
  · intro m hm
    cases hm

theorem PoolStep.borrower_committed (h : PoolStep s e s') (hs : MarketSet s)
    (hmsg : e.msg.paysBorrower = true)
    (hrule : s.getBorrowerRequireCommit e.info.sender = true) :
    e.response.messages = [] ∨ ∃ coins, PaysCommitted s e e.info.sender coins := by
  have hmarket := hs e.info.sender (Or.inl hrule)
  have hd : dispatch e.deps s e.env e.info e.msg = .ok (s', e.response) := execute_eq_ok h
  cases hm : e.msg with
  | borrow amount =>
    rw [hm] at hd
    obtain ⟨-, -, -, -, -, -, -, -, -, -, -, -, -, -, -, -, hmessages⟩ := borrow_spec hd
    rw [hrule] at hmessages
    exact Or.inr ⟨_, .ofResponse hmarket hmessages⟩
  | repay =>
    rw [hm] at hd
    obtain ⟨amount, payoff, -, -, -, -, -, -, -, -, -, -, -, -, hmessages⟩ := repay_spec hd
    rw [hrule, excessMessages] at hmessages
    split at hmessages
    · exact Or.inr ⟨_, .ofResponse hmarket hmessages⟩
    · exact Or.inl hmessages
  | removeCollateral toRemove =>
    rw [hm] at hd
    obtain ⟨-, -, -, -, -, -, -, -, -, -, -, -, hmessages⟩ := removeCollateral_spec hd
    rw [hrule] at hmessages
    exact Or.inr ⟨_, .ofResponse hmarket hmessages⟩
  | _ =>
    rw [hm] at hmsg
    cases hmsg

/-- A withdrawal under the rule: the burn, the payment and its commitment, and what was
not burned goes back. -/
theorem withdrawal_paysCommitted {token holder : Addr} {received burned paid : Uint128}
    {exact : Bool} (hmarket : s.contract.commitMarketId.isSome = true)
    (hmessages : e.response.messages =
      withdrawalMessages s e token (.burn burned) holder paid (some true) ++
        refundMessages exact token holder received burned) :
    PaysCommitted s e holder [⟨s.contract.lendingDenom.name, paid⟩] := by
  apply PaysCommitted.ofMessages [.wasmExecute token (.burn burned)]
    (refundMessages exact token holder received burned) hmarket
  · rw [hmessages]
    rfl
  · intro m hm
    rcases List.mem_append.mp hm with hburn | hrefund
    · rw [List.mem_singleton.mp hburn]
      rfl
    · unfold refundMessages at hrefund
      split at hrefund
      · rw [List.mem_singleton.mp hrefund]
        rfl
      · cases hrefund

theorem PoolStep.lender_committed {holder : Addr} {received : Uint128}
    {body : Except String Cw20ReceivePayload} (h : PoolStep s e s')
    (hmsg : e.msg = .receive ⟨holder, received, body⟩)
    (hrule : s.getLenderRequireCommitOnExit holder = true) :
    (∃ payload exact commitFunds, body = .ok payload ∧ payload.Withdraws exact commitFunds) ∧
      ∃ paid, PaysCommitted s e holder [⟨s.contract.lendingDenom.name, paid⟩] := by
  cases h.holderEvent with
  | lend msg =>
    rw [hmsg] at msg
    cases msg
  | @withdraw token holder' received' burned paid exact commitFunds payload msg body messages rule
      market =>
    rw [hmsg] at msg
    cases msg
    have hcommit := rule hrule
    rw [hcommit] at messages
    exact ⟨⟨payload, exact, commitFunds, rfl, body⟩, paid,
      withdrawal_paysCommitted (market hcommit) messages⟩
  | transfer msg body messages rule =>
    rw [hmsg] at msg
    cases msg
    rw [hrule] at rule
    cases rule
  | ownerWithdraw msg =>
    rw [hmsg] at msg
    cases msg
  | quiet _ receive => exact absurd hmsg (receive _)

theorem PoolStep.commitGuarded (h : PoolStep s e s') (hs : MarketSet s) :
    CommitGuarded ⟨s, e, s'⟩ where
  borrower hmsg hrule := h.borrower_committed hs hmsg hrule
  lender _ _ _ hmsg hrule := h.lender_committed hmsg hrule

end DemocratizedPrime
