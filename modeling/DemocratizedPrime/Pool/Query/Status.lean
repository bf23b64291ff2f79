import DemocratizedPrime.Lib.Provenance
import DemocratizedPrime.Pool.Replay
import DemocratizedPrime.Pool.Safety.CommitRules

/-!
# The queries of the commit rules

`queryBorrowerStatus` and `queryLenderStatus` show whether an account is under a commit rule.
The pool stores no more than the accounts that are, but what is stored is the latest entry
of a log, in which the owner's messages put an account under a rule or lift it.

So both the answers and the payments follow what the owner ruled last for an account,
whoever else was ruled on in between (`payouts_follow_latest_rule`).
-/

namespace DemocratizedPrime

open Result Transitions

/-- The commit rule of a borrower. -/
structure BorrowerStatusResponseV1 where
  requireCommit : Bool
deriving DecidableEq

/-- The commit rule of a lender. -/
structure LenderStatusResponseV1 where
  requireCommitOnExit : Bool
deriving DecidableEq

/-- `query_borrower_status`. -/
def queryBorrowerStatus (deps : Deps) (store : PoolStorage) (address : String) :
    ContractResult BorrowerStatusResponseV1 := do
  let addr ← deps.addrValidate (trim address)
  return { requireCommit := store.getBorrowerRequireCommit addr }

/-- `query_lender_status`. -/
def queryLenderStatus (deps : Deps) (store : PoolStorage) (address : String) :
    ContractResult LenderStatusResponseV1 := do
  let addr ← deps.addrValidate (trim address)
  return { requireCommitOnExit := store.getLenderRequireCommitOnExit addr }

/-! ## The log -/

/-- The rule that a message sets for a borrower.  To lift a rule is to set it to `false`. -/
def Event.borrowerRules (e : Event) : List (Addr × Bool) :=
  match e.msg with
  | .setBorrowerRequireCommit address require => [(trim address, require.getD false)]
  | _ => []

/-- The rulings on lenders that a message makes, with what it sets. -/
def Event.lenderRules (e : Event) : List (Addr × Bool) :=
  match e.msg with
  | .setLenderRequireCommitOnExit address require => [(trim address, require.getD false)]
  | _ => []

/-- What the owner ruled last for a borrower. -/
def borrowerRuled (events : List Event) (account : Addr) : Bool :=
  (latest (events.flatMap Event.borrowerRules) account).getD false

/-- The latest of the rulings on a lender, and the default without one. -/
def lenderRuled (events : List Event) (account : Addr) : Bool :=
  (latest (events.flatMap Event.lenderRules) account).getD false

section

variable {s s' : PoolStorage} {e : Event}

theorem contains_setRule {rules : Std.ExtTreeMap Addr Unit} {address account : Addr}
    {require : Bool} :
    (if require then rules.insert address () else rules.erase address).contains account =
      (latest [(address, require)] account).elim (rules.contains account) id := by
  rw [latest_singleton]
  cases require with
  | true => by_cases h : address = account <;> simp [h]
  | false => by_cases h : address = account <;> simp [h]

/-- A message that writes no record sets no rule. -/
theorem SameRecords.rules_eq (h : SameRecords s s') (he : e.msg.writesRecords = false)
    (account : Addr) :
    s'.getBorrowerRequireCommit account = (latest e.borrowerRules account).elim
        (s.getBorrowerRequireCommit account) id ∧
      s'.getLenderRequireCommitOnExit account = (latest e.lenderRules account).elim
        (s.getLenderRequireCommitOnExit account) id := by
  have hborrower : e.borrowerRules = [] := by
    unfold Event.borrowerRules
    split
    · rename_i hm
      rw [hm] at he
      cases he
    · rfl
  have hlender : e.lenderRules = [] := by
    unfold Event.lenderRules
    split
    · rename_i hm
      rw [hm] at he
      cases he
    · rfl
  rw [hborrower, hlender]
  exact h.rules account

/-- A step changes the rules as its message says. -/
theorem PoolStep.rules_eq (h : PoolStep s e s') (account : Addr) :
    s'.getBorrowerRequireCommit account = (latest e.borrowerRules account).elim
        (s.getBorrowerRequireCommit account) id ∧
      s'.getLenderRequireCommitOnExit account = (latest e.lenderRules account).elim
        (s.getLenderRequireCommitOnExit account) id := by
  cases h.records with
  | none msg same => exact same.rules_eq msg account
  | adjust msg adjusted =>
    unfold Event.borrowerRules Event.lenderRules
    rw [msg]
    obtain ⟨-, -, rfl | ⟨offer, rfl⟩⟩ := adjustDirectedCollateralSale_spec adjusted
    · exact ⟨rfl, rfl⟩
    · exact ⟨rfl, rfl⟩
  | liquidate msg _ shrunk =>
    unfold Event.borrowerRules Event.lenderRules
    rw [msg]
    obtain ⟨hborrower, hlender⟩ := shrunk.rules account
    rw [hborrower, hlender, shrinkOffer_eq]
    exact ⟨rfl, rfl⟩
  | borrowerRule msg _ set =>
    unfold Event.borrowerRules Event.lenderRules
    rw [msg, set]
    exact ⟨contains_setRule, rfl⟩
  | lenderRule msg _ set =>
    unfold Event.borrowerRules Event.lenderRules
    rw [msg, set]
    exact ⟨rfl, contains_setRule⟩

/-! ## What is paid -/

/-- Without the rule nothing of what a borrower is paid is committed. -/
theorem PoolStep.borrower_paid (h : PoolStep s e s') (hmsg : e.msg.paysBorrower = true)
    (hrule : s.getBorrowerRequireCommit e.info.sender = false) :
    e.response.messages = [] ∨ ∃ coins, e.response.messages = [.bankSend e.info.sender coins] := by
  have hd : dispatch e.deps s e.env e.info e.msg = .ok (s', e.response) := execute_eq_ok h
  cases hm : e.msg with
  | borrow amount =>
    rw [hm] at hd
    obtain ⟨-, -, -, -, -, -, -, -, -, -, -, -, -, -, -, -, hmessages⟩ := borrow_spec hd
    rw [hrule] at hmessages
    exact Or.inr ⟨_, hmessages⟩
  | repay =>
    rw [hm] at hd
    obtain ⟨amount, payoff, -, -, -, -, -, -, -, -, -, -, -, -, hmessages⟩ := repay_spec hd
    rw [hrule, excessMessages] at hmessages
    split at hmessages
    · exact Or.inr ⟨_, hmessages⟩
    · exact Or.inl hmessages
  | removeCollateral toRemove =>
    rw [hm] at hd
    obtain ⟨-, -, -, -, -, -, -, -, -, -, -, -, hmessages⟩ := removeCollateral_spec hd
    rw [hrule] at hmessages
    exact Or.inr ⟨_, hmessages⟩
  | _ =>
    rw [hm] at hmsg
    cases hmsg

/-- A step after these events follows the rules that they leave behind.  What a borrower is
paid is committed under the rule, and only then.  A holder of repo tokens under the rule can
only withdraw, and what is paid is committed. -/
structure FollowsRules (events : List Event) (x : Transition PoolStorage Event) : Prop where
  committed : x.label.msg.paysBorrower = true →
    borrowerRuled events x.label.info.sender = true →
      x.label.response.messages = [] ∨
        ∃ coins, PaysCommitted x.pre x.label x.label.info.sender coins
  paid : x.label.msg.paysBorrower = true →
    borrowerRuled events x.label.info.sender = false →
      x.label.response.messages = [] ∨
        ∃ coins, x.label.response.messages = [.bankSend x.label.info.sender coins]
  lender : ∀ holder received body, x.label.msg = .receive ⟨holder, received, body⟩ →
    lenderRuled events holder = true →
      (∃ payload exact commitFunds, body = .ok payload ∧ payload.Withdraws exact commitFunds) ∧
        ∃ paid, PaysCommitted x.pre x.label holder [⟨x.pre.contract.lendingDenom.name, paid⟩]

/-! ## Runs -/

variable {t : Timestamp} {s₀ : PoolStorage} {ts : List (Transition PoolStorage Event)}

/-- The tables show the latest rules. -/
theorem PoolRun.rules_eq (hstart : NoRecords s₀) (run : Run PoolStep s₀ ts s) (account : Addr) :
    s.getBorrowerRequireCommit account = borrowerRuled (ts.map (·.label)) account ∧
      s.getLenderRequireCommitOnExit account = lenderRuled (ts.map (·.label)) account := by
  have hborrower := run.latest_eq (T := fun (s : PoolStorage) a => s.getBorrowerRequireCommit a)
    (fun _ _ _ h a => (h.rules_eq a).1) account
  have hlender := run.latest_eq (T := fun (s : PoolStorage) a => s.getLenderRequireCommitOnExit a)
    (fun _ _ _ h a => (h.rules_eq a).2) account
  have hnone : s₀.getBorrowerRequireCommit account = false ∧
      s₀.getLenderRequireCommitOnExit account = false := by
    unfold PoolStorage.getBorrowerRequireCommit PoolStorage.getLenderRequireCommitOnExit
    rw [hstart.borrowerRules, hstart.lenderRules]
    exact ⟨rfl, rfl⟩
  rw [hborrower, hlender, hnone.1, hnone.2, borrowerRuled, lenderRuled, List.flatMap_map,
    List.flatMap_map]
  constructor
  · cases latest (ts.flatMap fun t => t.label.borrowerRules) account <;> rfl
  · cases latest (ts.flatMap fun t => t.label.lenderRules) account <;> rfl

/-- At the end of a run the queries answer what the owner ruled last for the account that is
asked for, and every step on the way followed what had been ruled last before it. -/
theorem payouts_follow_latest_rule (hdeployed : DeployedAt t s₀) (run : Run PoolStep s₀ ts s) :
    (∀ deps address, queryBorrowerStatus deps s address = do
      let addr ← deps.addrValidate (trim address)
      return { requireCommit := borrowerRuled (ts.map (·.label)) addr }) ∧
    (∀ deps address, queryLenderStatus deps s address = do
      let addr ← deps.addrValidate (trim address)
      return { requireCommitOnExit := lenderRuled (ts.map (·.label)) addr }) ∧
    ∀ before x after, ts = before ++ x :: after → FollowsRules (before.map (·.label)) x := by
  have hstart := hdeployed.noRecords
  refine ⟨fun deps address => ?_, fun deps address => ?_, fun before x after hts => ?_⟩
  · simp only [queryBorrowerStatus, (PoolRun.rules_eq hstart run _).1]
  · simp only [queryLenderStatus, (PoolRun.rules_eq hstart run _).2]
  · rw [hts] at run
    obtain ⟨hbefore, hstep, -⟩ := run.split
    have hrules := PoolRun.rules_eq hstart hbefore
    have hguarded := hstep.commitGuarded
      (hbefore.invariant (fun _ _ _ hs h => hs.step h) hstart.marketSet)
    refine ⟨fun hmsg hruled => ?_, fun hmsg hruled => ?_,
      fun holder received body hmsg hruled => ?_⟩
    · exact hguarded.borrower hmsg ((hrules _).1.trans hruled)
    · exact hstep.borrower_paid hmsg ((hrules _).1.trans hruled)
    · exact hguarded.lender holder received body hmsg ((hrules _).2.trans hruled)

end

namespace Demo

/-- Alice has to commit when she borrows.  Then Bob is put under the rule, and she is not under
it any more when she borrows again. -/
def ruledCalls : List Call :=
  [call "owner" [] (.setBorrowerRequireCommit "alice" (some true))] ++ opening ++
    [call "owner" [] (.setBorrowerRequireCommit "bob" (some true)),
      call "owner" [] (.setBorrowerRequireCommit "alice" none), call "alice" [] (.borrow 10)]

/-- Bob is under a rule, and Alice is not. -/
def ruledCheck (s : PoolStorage) : Bool :=
  s.getBorrowerRequireCommit "bob" && !s.getBorrowerRequireCommit "alice"

theorem ruledCalls_ok : replayCheck (deps 10) (env 0) ⟨"owner", []⟩
    { msg with commitMarketId := some 7 } ruledCalls ruledCheck = true := by
  decide +kernel

end Demo

theorem payouts_follow_latest_rule_bob :
    ∃ (ts : List (Transition PoolStorage Event)) (s : PoolStorage),
      ts.map (fun x => x.label.toCall) = Demo.ruledCalls ∧ Demo.ruledCheck s = true ∧
      borrowerRuled (ts.map (·.label)) "bob" = true ∧
      borrowerRuled (ts.map (·.label)) "alice" = false ∧
      ∀ before x after, ts = before ++ x :: after → FollowsRules (before.map (·.label)) x := by
  obtain ⟨s₀, ts, s, deployed, run, hcalls, hcheck⟩ := exists_run Demo.ruledCalls_ok
  obtain ⟨hbob, halice⟩ : s.getBorrowerRequireCommit "bob" = true ∧
      s.getBorrowerRequireCommit "alice" = false := by
    simpa [Demo.ruledCheck] using hcheck
  have hrules := PoolRun.rules_eq deployed.noRecords run
  exact ⟨ts, s, hcalls, hcheck, (hrules "bob").1.symm.trans hbob,
    (hrules "alice").1.symm.trans halice, (payouts_follow_latest_rule deployed run).2.2⟩

end DemocratizedPrime
