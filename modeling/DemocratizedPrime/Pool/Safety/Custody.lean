import DemocratizedPrime.Pool.Invariants.Ledgers
import DemocratizedPrime.Pool.Invariants.Solvency
import DemocratizedPrime.Pool.Safety.Isolation

/-!
# Custody of the collateral

The ledger of collateral says what the pool owes to its borrowers; this module says that the
coins are there.  Apart from the lending denomination a step sends what it takes off the
total, and nothing else (`PoolStep.sentCoins_eq`), so what the pool has of an asset above the
total never shrinks (`collateral_in_custody`).

So the bank never bounces a transaction that returns collateral: where the pool accepts a
`RemoveCollateral` or a `Liquidate`, its sends are covered (`collateral_payouts_covered`).
-/

namespace DemocratizedPrime

open Result TreeMap Transitions

section

variable {address : Addr}

/-! ## What leaves the pool -/

/-- Apart from the lending denomination, a step sends what it takes out of the collateral. -/
theorem PoolStep.sentCoins_eq {s s' : PoolStorage} {e : Event} (hstep : PoolStep s e s')
    {a : String} (ha : a ≠ s.contract.lendingDenom.name) :
    coinsOf a e.response.sentCoins = collateralSent a ⟨s, e, s'⟩ := by
  have hlending : ∀ (account : Addr) (amount : Uint128),
      e.response.bankSends = [(account, [⟨s.contract.lendingDenom.name, amount⟩])] →
      coinsOf a e.response.sentCoins = 0 := by
    intro account amount hsends
    rw [Response.sentCoins, hsends]
    simp [Ne.symm ha]
  have hnone : e.response.bankSends = [] → coinsOf a e.response.sentCoins = 0 := by
    intro hsends
    rw [Response.sentCoins, hsends]
    rfl
  unfold collateralSent
  dsimp only
  cases hstep.effect with
  | neutral msg sends =>
    rw [hnone sends]
    cases hm : e.msg <;> rw [hm] at msg
    all_goals first | rfl | cases msg
  | burn msg sends =>
    rw [hlending _ _ sends]
    cases hm : e.msg <;> rw [hm] at msg
    all_goals first | rfl | cases msg
  | removeCollateral msg => rw [msg]
  | liquidate msg =>
    rw [msg]
    dsimp only
    rw [coinsOf_filter_ne, if_neg ha]
  | repay msg _ sends =>
    rw [msg]
    split at sends
    · exact hlending _ _ sends
    · exact hnone sends
  | eliminateFromBank msg _ sends =>
    rw [msg]
    split at sends
    · exact hlending _ _ sends
    · exact hnone sends
  | updateSupportedCollateral msg _ sends => rw [msg, hnone sends]
  | updateContractConfig msg _ sends => rw [msg, hnone sends]
  | updateRateParams msg _ sends => rw [msg, hnone sends]
  | lend msg _ sends => rw [msg, hnone sends]
  | borrow msg _ sends => rw [msg, hlending _ _ sends]
  | addCollateral msg sends => rw [msg, hnone sends]
  | eliminateFromReserve msg _ sends => rw [msg, hnone sends]
  | socializeDeficit msg _ sends => rw [msg, hnone sends]
  | withdrawReserve msg _ sends => rw [msg, hlending _ _ sends]

/-- What comes in as collateral is attached to the message. -/
theorem collateralReceived_le (a : String) (t : Transition PoolStorage Event) :
    collateralReceived a t ≤ coinsOf a t.label.info.funds := by
  unfold collateralReceived
  split
  · exact Nat.le_refl _
  · exact Nat.zero_le _

/-! ## What stays -/

/-- The pool has the collateral of everybody, next to what it had before. -/
structure InCustody (address : Addr) (before : String → Nat) (w : World) : Prop where
  ledger : CollateralLedger w.pool
  held : ∀ a, a ≠ w.pool.contract.lendingDenom.name →
    before a + (w.pool.getTotalCollateralByAsset a).val ≤ w.bank address a

theorem InCustody.step {before : String → Nat} {w w' : World} {e : Event}
    (h : InCustody address before w) (hstep : WorldStep address w e w') :
    InCustody address before w' := by
  obtain ⟨hpool, hbank⟩ := hstep.spec
  refine ⟨h.ledger.step hpool, fun a ha => ?_⟩
  rw [hpool.lendingDenom_eq] at ha
  obtain ⟨out, hout, hmoved⟩ := hbank a
  have hbefore := h.held a ha
  have htotals := conservation_step h.ledger hpool a
  have hreceived := collateralReceived_le a ⟨w.pool, e, w'.pool⟩
  rw [hpool.sentCoins_eq ha] at hout
  dsimp only at hreceived
  omega

/-- The lending denomination is nobody's collateral, so its total is zero. -/
theorem CollateralLedger.lending_total {s : PoolStorage} (h : CollateralLedger s) :
    (s.getTotalCollateralByAsset s.contract.lendingDenom.name).val = 0 := by
  rw [← h.totals]
  refine List.sum_eq_zero fun n hn => ?_
  obtain ⟨entry, hentry, rfl⟩ := List.mem_map.mp hn
  have hheld := h.lending_eq_zero entry.1
  rw [← valueAt_borrowerCollateral] at hheld
  rwa [valueAt_of_getElem? (Std.ExtTreeMap.mem_toList_iff_getElem?_eq_some.mp hentry)] at hheld

/-! ## Payouts of collateral -/

/-- The messages that pay collateral out. -/
def ExecuteMsg.paysCollateral : ExecuteMsg → Bool
  | .removeCollateral _ | .liquidate .. => true
  | _ => false

theorem ExecuteMsg.paysCollateral_of_isNeutral {m : ExecuteMsg} (h : m.isNeutral = true) :
    m.paysCollateral = false := by
  cases m <;> first | rfl | cases h

theorem ExecuteMsg.paysCollateral_of_isWithdrawal {m : ExecuteMsg} (h : m.isWithdrawal = true) :
    m.paysCollateral = false := by
  cases m <;> first | rfl | cases h

/-- The two payouts of collateral, with what they send. -/
inductive CollateralPayout (s : PoolStorage) (e : Event) : Prop
  | removal {toRemove : Amounts} (msg : e.msg = .removeCollateral toRemove)
      (sends : e.response.bankSends = [(e.info.sender, toRemove.toList.map entryCoin)])
  | liquidation {borrower : String} {seize outgoing : Amounts} {t : LiquidationTarget}
      {p : LiquidationPlan} (msg : e.msg = .liquidate borrower seize)
      (target : t.Valid e.deps s e.env e.info borrower seize)
      (plan : p.Valid s.ownership s.contract e.info t seize)
      (sends : e.response.bankSends = (sendMessages e.info.sender
          (outgoing.toList.map entryCoin)).filterMap CosmosMsg.bankSend? ++
        (refundOf e.info.sender s.contract.lendingDenom.name p.sent
          p.actualRepay).filterMap CosmosMsg.bankSend?)
      (outgoing_eq : Added ∅ (seizedCoins p seize) outgoing)

theorem PoolStep.collateralPayout {s s' : PoolStorage} {e : Event} (hstep : PoolStep s e s')
    (hmsg : e.msg.paysCollateral = true) : CollateralPayout s e := by
  cases hstep.effect with
  | removeCollateral msg _ sends => exact .removal msg sends
  | liquidate msg target plan _ sends outgoing_eq =>
    exact .liquidation msg target plan sends outgoing_eq
  | neutral msg => rw [ExecuteMsg.paysCollateral_of_isNeutral msg] at hmsg; cases hmsg
  | burn msg => rw [ExecuteMsg.paysCollateral_of_isWithdrawal msg] at hmsg; cases hmsg
  | updateSupportedCollateral msg => rw [msg] at hmsg; cases hmsg
  | updateContractConfig msg => rw [msg] at hmsg; cases hmsg
  | updateRateParams msg => rw [msg] at hmsg; cases hmsg
  | lend msg => rw [msg] at hmsg; cases hmsg
  | borrow msg => rw [msg] at hmsg; cases hmsg
  | repay msg => rw [msg] at hmsg; cases hmsg
  | addCollateral msg => rw [msg] at hmsg; cases hmsg
  | eliminateFromReserve msg => rw [msg] at hmsg; cases hmsg
  | eliminateFromBank msg => rw [msg] at hmsg; cases hmsg
  | socializeDeficit msg => rw [msg] at hmsg; cases hmsg
  | withdrawReserve msg => rw [msg] at hmsg; cases hmsg

/-- They pay their sender, and nobody else. -/
theorem CollateralPayout.to_sender {s : PoolStorage} {e : Event} (h : CollateralPayout s e) :
    ∀ send ∈ e.response.bankSends, send.1 = e.info.sender := by
  intro send hsend
  cases h with
  | removal _ sends =>
    rw [sends, List.mem_singleton] at hsend
    rw [hsend]
  | liquidation _ _ _ sends =>
    rw [sends, List.mem_append] at hsend
    rcases hsend with hsend | hsend
    · exact sendMessages_to _ hsend
    · exact refundOf_to _ hsend

/-- What they pay is in the collateral, or came with the message. -/
theorem PoolStep.payout_le {s s' : PoolStorage} {e : Event} (hstep : PoolStep s e s')
    (h : CollateralLedger s) (hmsg : e.msg.paysCollateral = true) (a : String) :
    coinsOf a e.response.sentCoins ≤
      if a = s.contract.lendingDenom.name then coinsOf a e.info.funds
      else (s.getTotalCollateralByAsset a).val := by
  have htotals := conservation_step h hstep a
  have hreceived : collateralReceived a ⟨s, e, s'⟩ = 0 := by
    unfold collateralReceived
    cases hm : e.msg <;> rw [hm] at hmsg
    all_goals first | rfl | cases hmsg
  split
  · rename_i ha
    subst ha
    cases hstep.collateralPayout hmsg with
    | removal msg =>
      have hzero := h.lending_total
      simp only [collateralSent, msg] at htotals
      omega
    | liquidation msg target plan sends outgoing_eq =>
      have hsent := liquidation_lending_sent h target plan sends outgoing_eq
      rw [plan.funds, coinsOf_cons, coinsOf_nil, if_pos rfl]
      dsimp only
      omega
  · rename_i ha
    rw [hstep.sentCoins_eq ha]
    omega

/-- In custody, they are covered: when the pool accepts the message, it is delivered. -/
theorem InCustody.isOk_payout {before : String → Nat} {w : World} {c : Call} {bank : Bank}
    {pool : PoolStorage} {response : Response} (h : InCustody address before w)
    (hmsg : c.msg.paysCollateral = true)
    (hcall : c.info.sender ≠ address ∧ c.env.contractAddress = address)
    (hfunded : payCoins c.info.sender address w.bank c.info.funds = .ok bank)
    (hexecute : execute c.deps w.pool c.env c.info c.msg = .ok (pool, response)) :
    IsOk (deliver address w c) := by
  have hstep : PoolStep w.pool { c with response } pool := hexecute
  have hsender := (hstep.collateralPayout hmsg).to_sender
  refine IsOk.ensure hcall (IsOk.bind hfunded (IsOk.bind hexecute ?_))
  refine IsOk.bind_any (isOk_paySends (fun send hsend => ?_) fun a => ?_) fun _ _ => isOk_pure
  · rw [hsender send hsend]
    exact hcall.1
  · have hpayout : coinsOf a response.sentCoins ≤ _ := hstep.payout_le h.ledger hmsg a
    have hin := payCoins_spec hfunded address a
    rw [if_neg fun he => hcall.1 he.symm, if_pos rfl] at hin
    show coinsOf a response.sentCoins ≤ _
    split at hpayout
    · dsimp only at hpayout
      omega
    · rename_i ha
      have hheld := h.held a ha
      omega

variable {t : Timestamp} {w₀ w : World} {ts : List (Transition World Event)}

theorem InCustody.run (hdeployed : DeployedAt t w₀.pool) (run : Run (WorldStep address) w₀ ts w) :
    InCustody address (fun a => w₀.bank address a) w := by
  refine run.invariant (fun _ _ _ h hstep => h.step hstep) ⟨.fresh hdeployed.fresh, fun a _ => ?_⟩
  rw [PoolStorage.getTotalCollateralByAsset, hdeployed.fresh.totalCollateralByAsset, amountOf_empty]
  exact Nat.le_refl _

/-- After every run of transactions the pool has the collateral of all borrowers on top of
what it had at its deployment, and the bank covers every payout of collateral that the pool
accepts. -/
theorem collateral_in_custody (hdeployed : DeployedAt t w₀.pool)
    (run : Run (WorldStep address) w₀ ts w) :
    (∀ a, a ≠ w.pool.contract.lendingDenom.name →
      w₀.bank address a + (w.pool.borrowerCollateral.toList.map fun entry =>
        (amountOf entry.2 a).val).sum ≤ w.bank address a) ∧
      (∀ b, (amountOf (w.pool.getBorrowerCollateral b) w.pool.contract.lendingDenom.name).val =
        0) ∧
      ∀ (c : Call) (bank : Bank) (pool : PoolStorage) (response : Response),
        c.msg.paysCollateral = true → c.info.sender ≠ address → c.env.contractAddress = address →
        payCoins c.info.sender address w.bank c.info.funds = .ok bank →
        execute c.deps w.pool c.env c.info c.msg = .ok (pool, response) →
        ∃ w', WorldStep address w { c with response } w' := by
  have hcustody := InCustody.run hdeployed run
  refine ⟨fun a ha => ?_, hcustody.ledger.lending_eq_zero, ?_⟩
  · have hheld := hcustody.held a ha
    rw [← hcustody.ledger.totals a] at hheld
    exact hheld
  · intro c bank pool response hmsg hsender haddress hfunded hexecute
    obtain ⟨⟨w', response'⟩, hdeliver⟩ :=
      hcustody.isOk_payout hmsg ⟨hsender, haddress⟩ hfunded hexecute
    have hsame : response' = response := by
      have hdelivered := hdeliver
      simp only [deliver, bind_eq_ok, ensure_eq_ok, exists_const, Prod.exists, pure_eq_ok,
        Prod.mk.injEq] at hdelivered
      obtain ⟨-, _, -, _, _, hexecute', _, -, -, rfl⟩ := hdelivered
      rw [hexecute] at hexecute'
      exact (Prod.mk.inj (Except.ok.inj hexecute')).2.symm
    rw [hsame] at hdeliver
    exact ⟨w', hdeliver⟩

end

namespace Demo

/-- Alice asks for a part of her gold. -/
def aliceReduces : Call := call "alice" [] (.removeCollateral ((∅ : Amounts).insert "gold" 10))

/-- The lent denom is not the collateral, and Alice's message succeeds. -/
def reducesCheck (w : World) : Bool :=
  decide (w.pool.contract.lendingDenom.name ≠ "gold") &&
    (execute aliceReduces.deps w.pool aliceReduces.env aliceReduces.info aliceReduces.msg).isOk

theorem reduces_ok : deliverCheck (deps 10) (env 0) ⟨"owner", []⟩ msg bank opening
    reducesCheck = true := by
  decide +kernel

end Demo

/-- The pool has Alice's gold, and what she asks for is delivered. -/
theorem collateral_in_custody_opening :
    ∃ w₀ ts w, DeployedAt (Demo.env 0).blockTime w₀.pool ∧ Run (WorldStep "pool") w₀ ts w ∧
      w₀.bank "pool" "gold" + (w.pool.borrowerCollateral.toList.map fun entry =>
        (amountOf entry.2 "gold").val).sum ≤ w.bank "pool" "gold" ∧
      ∃ response w', WorldStep "pool" w { Demo.aliceReduces with response } w' := by
  obtain ⟨w₀, ts, w, hdeployed, -, run, -, hcheck⟩ := exists_worldRun Demo.reduces_ok
  simp only [Demo.reducesCheck, Bool.and_eq_true, decide_eq_true_eq, isOk_iff] at hcheck
  obtain ⟨hgold, ⟨pool, response⟩, hexecute⟩ := hcheck
  obtain ⟨hheld, -, hpaid⟩ := collateral_in_custody hdeployed run
  exact ⟨w₀, ts, w, hdeployed, run, hheld "gold" hgold.symm, response,
    hpaid Demo.aliceReduces w.bank pool response rfl (show ("alice" : Addr) ≠ "pool" by decide) rfl
      rfl hexecute⟩

end DemocratizedPrime
