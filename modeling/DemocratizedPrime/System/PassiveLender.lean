import DemocratizedPrime.System.LenderGains
import DemocratizedPrime.System.ReceiptBalance

/-!
# A lender who waits

Two kinds of transactions take repo tokens from an account: its own `Send`, and a withdrawal
by the owner for it (`Tx.takesFrom`).  No other transaction of anybody lowers its balance.

What the balance is worth moves with the liquidity index, at what it would be accrued to.
`KeepsIndex index now` says that at no time from `now` on it is below `index`.  A step keeps
that unless it takes a loss, `TakesLoss`: an accrual to a later time leaves the higher
index, and no message but a socialization and a write-off lowers what was accrued.

So what the token shows to a lender who waits does not fall without a loss, and is what the
lender is then paid.
-/

namespace DemocratizedPrime

open Result Transitions RepoToken

section

variable {w : Wiring} {tx : Tx} {sys sys' : System} {account : Addr}

/-! ## The balance -/

/-- The transactions that can take tokens from an account. -/
def Tx.takesFrom (account : Addr) (tx : Tx) : Bool :=
  match tx.msg with
  | .token (.send ..) => decide (tx.info.sender = account)
  | .pool (.withdraw lender _ _) => decide (trim lender = account)
  | _ => false

/-- No other transaction lowers the balance. -/
theorem SystemStep.balance_le (h : SystemStep w sys tx sys') (hwired : Wired w sys.token)
    (hsys : InStep w 0 sys) (hspared : tx.takesFrom account = false) :
    (sys.token.balance account).val ≤ (sys'.token.balance account).val := by
  by_cases haccount : account = w.pool
  · rw [haccount, hsys.holding]
    exact Nat.zero_le _
  · cases h.txEffect hwired hsys.bound haccount with
    | @pool e _ _ step tx_msg _ _ direct balance =>
      cases AccountEffect.ofPool step.holderEvent direct balance with
      | lend _ _ _ _ _ _ balance => omega
      | withdraw withdrawer =>
        exfalso
        cases hmsg : e.msg with
        | withdraw lender amount commitFunds =>
          rw [hmsg] at withdrawer tx_msg
          simp only [Tx.takesFrom, tx_msg, decide_eq_false_iff_not] at hspared
          exact hspared (Option.some.inj withdrawer)
        | receive m => exact absurd hmsg (direct m)
        | _ =>
          rw [hmsg] at withdrawer
          cases withdrawer
      | transfer msg => exact absurd msg (direct _)
      | other _ _ balance => rw [balance]
    | @send e amount body _ _ step tx_msg msg balance =>
      have hsender : tx.info.sender ≠ account := by
        simpa [Tx.takesFrom, tx_msg] using hspared
      cases AccountEffect.ofSend step.holderEvent msg balance with
      | lend _ _ _ _ _ _ balance => omega
      | withdraw withdrawer =>
        rw [msg] at withdrawer
        simp only [ExecuteMsg.withdrawer?] at withdrawer
        split at withdrawer
        · exact absurd (Option.some.inj withdrawer) hsender
        · exact absurd (Option.some.inj withdrawer) hsender
        · cases withdrawer
      | transfer msg' _ _ _ balance =>
        rw [msg] at msg'
        cases msg'
        rw [if_neg hsender.symm] at balance
        omega
      | other _ _ balance => rw [balance]
    | quiet _ _ balance => rw [balance]

/-! ## The index -/

/-- The step spreads a loss over the lenders. -/
def TakesLoss (s : PoolStorage) (e : Event) : Prop :=
  (∃ maxAmount, e.msg = .socializeDeficit maxAmount) ∨
    (WritesOff s e ∧ s.contract.badDebtLossAllocation = .immediateLiquidityIndexHaircut)

theorem liquidate_saves_accrued {s s' : PoolStorage} {e : Event} {borrower : String}
    {seize : Amounts} {r : ReserveStateV1} (hmsg : e.msg = .liquidate borrower seize)
    (h : PoolStep s e s') (hloss : ¬ TakesLoss s e) (accrued : AccruedTo s e.env.blockTime r) :
    s'.reserve.liquidityIndex = r.liquidityIndex := by
  have hd : dispatch e.deps s e.env e.info e.msg = .ok (s', e.response) := execute_eq_ok h
  rw [hmsg] at hd
  have hliq : liquidate e.deps s e.env e.info borrower seize = .ok (s', e.response) := hd
  obtain ⟨t, p, ht, hp, hsettle⟩ := liquidate_stages hliq
  obtain ⟨r', _, _, hbook, -, -, hs', -⟩ := settleLiquidation_spec hsettle
  have hreserve : s'.reserve = r' := by
    rw [hs', shrinkOffer_eq]
    rfl
  have hbooked : r'.liquidityIndex = t.reserve.liquidityIndex := by
    obtain ⟨total, ⟨-, -, hr'⟩ | ⟨hbad, -, ⟨halloc, -⟩ | ⟨-, -, hr'⟩⟩⟩ := bookRepayment_spec hbook
    · rw [hr']
    · exact absurd (Or.inr ⟨⟨borrower, seize, t, p, hmsg, ht, hp, hbad⟩, halloc⟩) hloss
    · rw [hr']
  rw [hreserve, hbooked, (liquidationTarget_spec ht).accrued.unique accrued]

/-- A step that takes no loss saves the index that it accrued. -/
theorem PoolStep.saves_accrued {s s' : PoolStorage} {e : Event} {r : ReserveStateV1}
    (h : PoolStep s e s') (hloss : ¬ TakesLoss s e) (hkind : e.msg.accruesInterest = true)
    (accrued : AccruedTo s e.env.blockTime r) :
    s'.reserve.liquidityIndex = r.liquidityIndex := by
  have hsame {r' : ReserveStateV1} (accrued' : AccruedTo s e.env.blockTime r') :
      r'.liquidityIndex = r.liquidityIndex := by rw [accrued'.unique accrued]
  cases h.effect with
  | neutral msg =>
    rw [ExecuteMsg.accruesInterest_of_isNeutral msg] at hkind
    cases hkind
  | updateSupportedCollateral msg =>
    rw [msg] at hkind
    cases hkind
  | updateContractConfig msg =>
    rw [msg] at hkind
    cases hkind
  | addCollateral msg =>
    rw [msg] at hkind
    cases hkind
  | updateRateParams _ _ _ accrued' => exact (hsame accrued' :)
  | lend _ _ _ accrued' => exact (hsame accrued' :)
  | burn _ _ accrued' => exact (hsame accrued' :)
  | borrow _ _ _ accrued' => exact (hsame accrued' :)
  | repay _ _ _ accrued' => exact (hsame accrued' :)
  | removeCollateral _ _ _ accrued' => exact (hsame accrued' :)
  | liquidate msg => exact liquidate_saves_accrued msg h hloss accrued
  | eliminateFromReserve _ _ _ accrued' => exact (hsame accrued' :)
  | eliminateFromBank _ _ _ accrued' => exact (hsame accrued' :)
  | socializeDeficit msg => exact absurd (Or.inl ⟨_, msg⟩) hloss
  | withdrawReserve _ _ _ accrued' => exact (hsame accrued' :)

/-- From a time on, in nanoseconds, the liquidity index is accrued to no less than `index`. -/
def KeepsIndex (index now : Nat) (s : PoolStorage) : Prop :=
  ∀ t r, now ≤ t.nanos.val → AccruedTo s t r → index ≤ r.liquidityIndex.atomics

theorem AccruedTo.keepsIndex {s : PoolStorage} {t : Timestamp} {r : ReserveStateV1}
    (h : AccruedTo s t r) : KeepsIndex r.liquidityIndex.atomics t.nanos.val s :=
  fun _ _ hle h' => h.liquidityIndex_mono h' (Nat.div_le_div_right hle)

theorem KeepsIndex.later {s : PoolStorage} {index now now' : Nat} (h : KeepsIndex index now s)
    (hle : now ≤ now') : KeepsIndex index now' s :=
  fun t r ht hr => h t r (Nat.le_trans hle ht) hr

/-- A step in a later block keeps it, if it takes no loss. -/
theorem KeepsIndex.step {s s' : PoolStorage} {e : Event} {index now : Nat}
    (h : KeepsIndex index now s) (hstep : PoolStep s e s') (hle : now ≤ e.env.blockTime.nanos.val)
    (hloss : ¬ TakesLoss s e) : KeepsIndex index e.env.blockTime.nanos.val s' := by
  intro t r' ht hr'
  rcases hstep.accrual with ⟨hkind, r, hr, -⟩ | ⟨-, hreserve, hparams⟩
  · have hsaved := hstep.saves_accrued hloss hkind hr
    calc index ≤ r.liquidityIndex.atomics := h _ _ hle hr
      _ = s'.reserve.liquidityIndex.atomics := by rw [hsaved]
      _ ≤ r'.liquidityIndex.atomics := hr'.liquidityIndex_le
  · exact h t r' (Nat.le_trans hle ht) (hr'.of_reserve hreserve.symm hparams.symm)

/-! ## Runs -/

/-- A transaction in which the account and the owner take nothing out of the account. -/
structure Spares (w : Wiring) (account : Addr) (x : Transition (System × Nat) Tx) : Prop where
  wired : Wired w x.post.1.token
  spared : x.label.takesFrom account = false

/-- A transaction that spreads no loss over the lenders. -/
def NoLoss (w : Wiring) (x : Transition (System × Nat) Tx) : Prop :=
  ∀ e, x.pre.1.poolEvent w x.label = some e → ¬ TakesLoss x.pre.1.pool e

/-- The clock of a transaction, in nanoseconds. -/
def Tx.nanos (tx : Tx) : Nat := tx.blockTime.nanos.val

/-- Transactions whose blocks do not go back in time. -/
abbrev BlockTxStep (w : Wiring) : System × Nat → Tx → System × Nat → Prop :=
  Clocked Tx.nanos (SystemStep w)

/-- What is known of a lender who waits: the token is in step with the pool and wired to it, and
the balance has not fallen. -/
structure Waiting (w : Wiring) (account : Addr) (balance : Nat) (x : System × Nat) : Prop where
  inStep : InStep w 0 x.1
  wired : Wired w x.1.token
  balance_le : balance ≤ (x.1.token.balance account).val

theorem Waiting.step {balance : Nat} {x x' : System × Nat} {tx : Tx}
    (h : Waiting w account balance x) (hspares : Spares w account ⟨x, tx, x'⟩)
    (hstep : BlockTxStep w x tx x') : Waiting w account balance x' :=
  ⟨SystemStep.inStep hstep.2.2 h.wired h.inStep, hspares.wired,
    Nat.le_trans h.balance_le (hstep.2.2.balance_le h.wired h.inStep hspares.spared)⟩

/-- A transaction that takes no loss keeps the index. -/
theorem BlockTxStep.keepsIndex {index : Nat} {x x' : System × Nat} {tx : Tx}
    (h : BlockTxStep w x tx x') (hwired : Wired w x.1.token) (hsys : InStep w 0 x.1)
    (hloss : NoLoss w ⟨x, tx, x'⟩) (hindex : KeepsIndex index x.2 x.1.pool) :
    KeepsIndex index x'.2 x'.1.pool := by
  obtain ⟨hle, hclock, hstep⟩ := h
  rw [hclock]
  -- Which account is followed does not matter for the pool's part.
  rcases hstep.accountEffect hwired hsys.bound (fun he => w.distinct he.symm) with
    ⟨e, hevent, henv, hpool, -⟩ | ⟨-, hpool, -⟩
  · have htime : e.env.blockTime.nanos.val = tx.nanos := by rw [henv]; rfl
    rw [← htime] at hle ⊢
    exact hindex.step hpool hle (hloss e hevent)
  · rw [hpool]
    exact hindex.later hle

/-- What a balance that has not fallen is worth, at an index that has not fallen. -/
theorem value_le {balance balance' paid paid' : Uint128} {index index' : Decimal256}
    (hpaid : scaledToUnderlyingLiquidity balance index = .ok paid)
    (hpaid' : scaledToUnderlyingLiquidity balance' index' = .ok paid')
    (hbalance : balance.val ≤ balance'.val) (hindex : index.atomics ≤ index'.atomics) :
    paid.val ≤ paid'.val := by
  rw [scaledToUnderlying_eq hpaid, scaledToUnderlying_eq hpaid']
  exact Nat.div_le_div_right (Nat.mul_le_mul hbalance hindex)

variable {sys₀ sys₁ : System} {history : List (Transition System Tx)}
  {ts : List (Transition (System × Nat) Tx)} {now : Nat}

/-- Along transactions that take nothing out of an account and leave the token wired to the
pool, the account's balance of repo tokens does not fall.  If none of them spreads a loss over
the lenders either, then the balance that the token shows does not fall, and whoever then takes
everything out is paid what was shown. -/
theorem waiting_lender_keeps_value {env₁ env : Env} (start : SystemStart w sys₀)
    (past : Run (SystemStep w) sys₀ history sys₁)
    (past_wired : ∀ x ∈ history, Wired w x.post.token)
    (run : Run (BlockTxStep w) (sys₁, env₁.blockTime.nanos.val) ts (sys, now))
    (hnow : now ≤ env.blockTime.nanos.val) (spares : ∀ x ∈ ts, Spares w account x)
    (deps₁ deps : Deps) :
    (sys₁.token.balance account).val ≤ (sys.token.balance account).val ∧
      ((∀ x ∈ ts, NoLoss w x) → ∀ before,
        sys₁.shownBalance w deps₁ env₁ account = .ok before →
        (∀ after, sys.shownBalance w deps env account = .ok after → before.val ≤ after.val) ∧
        ∀ tx sys', tx.blockTime = env.blockTime → FullWithdrawal w sys account tx →
          SystemStep w sys tx sys' → ∃ e paid, sys.poolEvent w tx = some e ∧
            e.response.bankSends = [(account, [⟨sys.pool.contract.lendingDenom.name, paid⟩])] ∧
            before.val ≤ paid.val) := by
  obtain ⟨hsys₁, hwired₁⟩ := start.inStep_run past past_wired
  have hstart : Waiting w account (sys₁.token.balance account).val
      (sys₁, env₁.blockTime.nanos.val) := ⟨hsys₁, hwired₁, Nat.le_refl _⟩
  have hend := run.invariant_of_transitions (fun _ _ _ h hx hstep => h.step hx hstep) spares hstart
  refine ⟨hend.balance_le, fun lossless before hbefore => ?_⟩
  obtain ⟨-, -, r₁, hr₁, hvalue₁⟩ := (shownBalance_eq_ok hwired₁).mp hbefore
  have hindex : KeepsIndex r₁.liquidityIndex.atomics now sys.pool := by
    refine (run.invariant_of_transitions
      (I := fun x => Waiting w account (sys₁.token.balance account).val x ∧
        KeepsIndex r₁.liquidityIndex.atomics x.2 x.1.pool)
      (P := fun x => Spares w account x ∧ NoLoss w x) ?_ (fun x hx => ⟨spares x hx, lossless x hx⟩)
      ⟨hstart, hr₁.keepsIndex⟩).2
    rintro x tx x' ⟨hwaiting, hkeeps⟩ ⟨hspares, hloss⟩ hstep
    exact ⟨hwaiting.step hspares hstep,
      BlockTxStep.keepsIndex hstep hwaiting.wired hwaiting.inStep hloss hkeeps⟩
  -- Both what is shown and what is paid are the value at an accrued index.
  have hkept {r : ReserveStateV1} {value : Uint128} (hr : AccruedTo sys.pool env.blockTime r)
      (hvalue : scaledToUnderlyingLiquidity (sys.token.balance account) r.liquidityIndex =
        .ok value) : before.val ≤ value.val :=
    value_le hvalue₁ hvalue hend.balance_le (hindex _ _ hnow hr)
  refine ⟨fun after hafter => ?_, fun tx sys' htime hwithdrawal hstep => ?_⟩
  · obtain ⟨-, -, r, hr, hvalue⟩ := (shownBalance_eq_ok hend.wired).mp hafter
    exact hkept hr hvalue
  · obtain ⟨e, hevent, henv, r, paid, hr, hvalue, hsends⟩ :=
      hwithdrawal.paysValue hstep hend.wired hend.inStep.bound
    have hblock : e.env.blockTime = env.blockTime := by
      rw [henv]
      exact htime
    rw [hblock] at hr
    exact ⟨e, paid, hevent, hsends, hkept hr hvalue⟩

end

namespace Demo

/-- Carol lends next to another lender, and Alice borrows. -/
def twoLenders : List Tx :=
  [tx "lender" [⟨"usd", 1000⟩] (.pool .lend),
    tx "carol" [⟨"usd", 500⟩] (.pool .lend),
    tx "alice" [⟨"gold", 100⟩] (.pool .addCollateral),
    tx "alice" [] (.pool (.borrow 500))]

/-- A year later. -/
def nextYear : Timestamp := (env 31536000).blockTime

/-- In the next year the other lender withdraws, Alice repays a part, and the owner withdraws for
the other lender. -/
def othersMove : List Tx :=
  [tx "lender" [] (.token (.send "pool" 100 (.ok (.withdraw 33 none)))),
    tx "alice" [⟨"usd", 100⟩] (.pool .repay),
    tx "owner" [] (.pool (.withdraw "lender" (some 150) none))].map
      fun t => { t with blockTime := nextYear }

/-- And Carol withdraws everything. -/
def carolLeaves : Tx :=
  { tx "carol" [] (.token (.send "pool" 500 (.ok (.withdrawExact none)))) with
    blockTime := nextYear }

/-- A transaction that is not before the clock. -/
def blockTransact (x : System × Nat) (tx : Tx) : ContractResult ((System × Nat) × Unit) :=
  if x.2 ≤ tx.nanos then (fun sys => ((sys, tx.nanos), ())) <$> x.1.transact wiring tx
  else .error (.std "not in order")

theorem blockTransact_step {x x' : System × Nat} {tx : Tx} {u : Unit}
    (h : blockTransact x tx = .ok (x', u)) : BlockTxStep wiring x tx x' := by
  unfold blockTransact at h
  split at h
  · rename_i hle
    rw [map_eq_ok] at h
    obtain ⟨sys, hsys, heq⟩ := h
    cases heq
    exact ⟨hle, rfl, hsys⟩
  · cases h

/-- Whether the transaction spares the account, and is none that could take a loss. -/
def sparesCheck (account : Addr) (x : Transition (System × Nat) Tx) : Bool :=
  decide (x.post.1.token.config = ⟨wiring.pool, some wiring.pool⟩) &&
    !x.label.takesFrom account &&
      (x.pre.1.poolEvent wiring x.label).all fun e =>
        match e.msg with
        | .socializeDeficit _ | .liquidate .. => false
        | _ => true

theorem spares_check {account : Addr} {x : Transition (System × Nat) Tx}
    (h : sparesCheck account x = true) : Spares wiring account x ∧ NoLoss wiring x := by
  simp only [sparesCheck, Bool.and_eq_true, decide_eq_true_eq, Bool.not_eq_true',
    Option.all_eq_true] at h
  obtain ⟨⟨hwired, hspared⟩, hkind⟩ := h
  refine ⟨⟨hwired, hspared⟩, fun e hevent hloss => ?_⟩
  have hmsg := hkind e hevent
  rcases hloss with ⟨_, hloss⟩ | ⟨⟨_, _, _, _, hloss, -⟩, -⟩
  · rw [hloss] at hmsg
    cases hmsg
  · rw [hloss] at hmsg
    cases hmsg

/-- Whether the others can move while Carol waits, and what she is shown before and after. -/
def waitsCheck (sys : System) : Bool :=
  match replay blockTransact (fun tx _ => tx) (sys, (env 0).blockTime.nanos.val) othersMove with
  | .ok (ts, (sys', now)) =>
    ts.all (sparesCheck "carol") && decide (now ≤ nextYear.nanos.val) &&
      decide (sys.shownBalance wiring (deps 10) (env 0) "carol" = .ok 500) &&
      decide (sys'.shownBalance wiring (deps 10) (env 31536000) "carol" = .ok 510) &&
      decide (sys'.token.balance "carol" = 500) && (sys'.transact wiring carolLeaves).isOk
  | .error _ => false

theorem twoLenders_ok : transactCheck wiring (deps 10) (env 0) ⟨"owner", []⟩ msg tokenMsg bank
    twoLenders waitsCheck = true := by
  decide +kernel

end Demo

/-- Carol lends 500 and waits for a year, after which she takes out at least the 500 that
she was shown: the token shows her 510. -/
theorem waiting_lender_keeps_value_carol :
    ∃ (sys₁ sys sys' : System) (e : Event) (paid : Uint128),
      sys₁.shownBalance Demo.wiring (Demo.deps 10) (Demo.env 0) "carol" = .ok 500 ∧
      sys.shownBalance Demo.wiring (Demo.deps 10) (Demo.env 31536000) "carol" = .ok 510 ∧
      (500 : Uint128).val ≤ (510 : Uint128).val ∧
      SystemStep Demo.wiring sys Demo.carolLeaves sys' ∧
      sys.poolEvent Demo.wiring Demo.carolLeaves = some e ∧
      e.response.bankSends = [("carol", [⟨sys.pool.contract.lendingDenom.name, paid⟩])] ∧
      (500 : Uint128).val ≤ paid.val := by
  obtain ⟨sys₀, history, sys₁, start, past, wired, -, hcheck⟩ := exists_systemRun Demo.twoLenders_ok
  unfold Demo.waitsCheck at hcheck
  split at hcheck
  · rename_i ts sys now hreplay
    simp only [Bool.and_eq_true, List.all_eq_true, decide_eq_true_eq, isOk_iff] at hcheck
    obtain ⟨⟨⟨⟨⟨hspares, hnow⟩, hbefore⟩, hafter⟩, hbalance⟩, sys', hleaves⟩ := hcheck
    have run : Run (BlockTxStep Demo.wiring) (sys₁, (Demo.env 0).blockTime.nanos.val) ts
        (sys, now) := by
      refine run_of_replay ?_ hreplay
      exact fun _ _ _ _ h => Demo.blockTransact_step h
    obtain ⟨-, hkeeps⟩ := waiting_lender_keeps_value start past wired run
      (show now ≤ (Demo.env 31536000).blockTime.nanos.val from hnow)
      (fun x hx => (Demo.spares_check (hspares x hx)).1) (Demo.deps 10) (Demo.deps 10)
    obtain ⟨hshown, hpaid⟩ := hkeeps (fun x hx => (Demo.spares_check (hspares x hx)).2) _ hbefore
    obtain ⟨e, paid, hevent, hsends, hle⟩ := hpaid Demo.carolLeaves sys' rfl
      (.exact rfl (by rw [hbalance]; rfl)) hleaves
    exact ⟨sys₁, sys, sys', e, paid, hbefore, hafter, hshown _ hafter, hleaves, hevent, hsends, hle⟩
  · cases hcheck

end DemocratizedPrime
