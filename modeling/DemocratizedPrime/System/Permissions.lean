import DemocratizedPrime.Pool.Safety.Attributes
import DemocratizedPrime.System.Holders
import DemocratizedPrime.System.LockStep

/-!
# Who can come by a position

The pool checks attributes in five handlers.  Together they keep the books of both contracts
closed: `SystemStep.permitted` says that nobody's repo tokens, debt or collateral grow in a
transaction unless the account has all the attributes that the pool then requires of lenders,
or of borrowers.

Repo tokens grow by a loan of the account and by a transfer to it; a refund gives back less
than was sent.  Debt grows by a loan to the borrower, and collateral by a deposit.
-/

namespace DemocratizedPrime

open Result Transitions RepoToken

section

variable {w : Wiring} {tx : Tx} {sys sys' : System} {holds : Addr → List String}

/-! ## The host -/

theorem ScanPages.congr {deps : Deps} {account suffix key : String} {pages : List (List String)}
    (h : ScanPages deps account suffix key pages) (deps' : Deps)
    (hscan : deps'.scan = deps.scan) : ScanPages deps' account suffix key pages := by
  induction h with
  | last scan done => exact .last (by rw [hscan]; exact scan) done
  | more scan successor full _ ih => exact .more (by rw [hscan]; exact scan) successor full ih

/-- The answers are the same when the pool asks its token about balances. -/
theorem AnswersFrom.askToken {deps : Deps} (h : AnswersFrom deps holds) (address : Addr)
    (token : TokenStorage) : AnswersFrom (deps.askToken address token) holds where
  exact := h.exact
  scan account suffix := by
    obtain ⟨pages, hpages, hflatten⟩ := h.scan account suffix
    exact ⟨pages, hpages.congr (deps.askToken address token) rfl, hflatten⟩

theorem poolAnswer_deps {token : TokenStorage} {info : MessageInfo} {msg : ExecuteMsg} {e : Event}
    (h : sys.poolAnswer w tx token info msg = some e) :
    e.deps = tx.deps.askToken w.token token := by
  unfold System.poolAnswer at h
  dsimp only at h
  split at h
  · cases h
    rfl
  · cases h

theorem poolEvent_deps {e : Event} (h : sys.poolEvent w tx = some e) :
    ∃ token, e.deps = tx.deps.askToken w.token token := by
  unfold System.poolEvent at h
  split at h
  · exact ⟨_, poolAnswer_deps h⟩
  · split at h
    · obtain ⟨call, -, hcall⟩ := Option.bind_eq_some_iff.mp h
      exact ⟨_, poolAnswer_deps hcall⟩
    · cases h

/-! ## Growth -/

/-- Collateral grows by a deposit of the borrower. -/
theorem PoolStep.collateralUp {s s' : PoolStorage} {e : Event} {b : Addr} {asset : String}
    (h : PoolStep s e s') (hup : (amountOf (s.getBorrowerCollateral b) asset).val <
      (amountOf (s'.getBorrowerCollateral b) asset).val) :
    e.info.sender = b ∧ e.msg = .addCollateral := by
  have hkept {held : Amounts} {a : Addr}
      (hle : (amountOf held asset).val ≤ (amountOf (s.getBorrowerCollateral a) asset).val)
      (hmore : (amountOf (s.getBorrowerCollateral b) asset).val <
        (amountOf ((s.setBorrowerCollateral a held).getBorrowerCollateral b) asset).val) :
      False := by
    rw [amountOf_save] at hmore
    split at hmore
    · rename_i heq
      rw [heq] at hle
      omega
    · omega
  cases h.effect with
  | neutral _ _ change =>
    unfold PoolStorage.getBorrowerCollateral at hup
    rw [change.borrowerCollateral] at hup
    omega
  | @addCollateral held totals msg =>
    change _ < (amountOf ((s.setBorrowerCollateral e.info.sender held).getBorrowerCollateral b)
      asset).val at hup
    rw [amountOf_save] at hup
    split at hup
    · rename_i heq
      exact ⟨heq, msg⟩
    · omega
  | removeCollateral _ _ _ _ _ held_eq =>
    have hamounts := held_eq.amounts asset
    exact (hkept (Nat.le.intro hamounts) hup).elim
  | @liquidate borrower seize outgoing totals t p r' offers _ target plan =>
    have hleft := plan.seizedCoins_eq asset
    rw [target.collateral_eq] at hleft
    exact (hkept (Nat.le.intro hleft) hup).elim
  | _ => exact absurd hup (Nat.lt_irrefl _)

/-- An account that has everything on the list of a role. -/
def HasAll (names required : List String) : Prop := ∀ r ∈ required, HasAttribute names r

/-- Repo tokens come by a loan of the account or by a transfer to it. -/
theorem AccountEffect.balance_lt {e : Event} {account : Addr}
    (h : AccountEffect sys e account sys') (hstep : PoolStep sys.pool e sys'.pool)
    (host : AnswersFrom e.deps holds)
    (hup : (sys.token.balance account).val < (sys'.token.balance account).val) :
    HasAll (holds account) sys.pool.contract.lenderRequiredAttrs := by
  have hneeds := hstep.needs_met host
  intro required hmem
  refine hneeds (account, required) ?_
  unfold Event.needs
  cases h with
  | lend msg sender =>
    rw [msg, ← sender]
    exact List.mem_map.mpr ⟨required, hmem, rfl⟩
  | withdraw _ _ _ _ balance => omega
  | @transfer holder recipient received sent exact payload msg body _ _ balance =>
    have hrecipient : account = recipient := by
      by_contra hne
      rw [if_neg hne] at balance
      omega
    rw [msg, hrecipient]
    cases body <;> exact List.mem_map.mpr ⟨required, hmem, rfl⟩
  | other _ _ balance =>
    rw [balance] at hup
    exact absurd hup (Nat.lt_irrefl _)

/-- What a transaction may add to whom. -/
structure Permitted (holds : Addr → List String) (sys sys' : System) : Prop where
  tokens : ∀ account, (sys.token.balance account).val < (sys'.token.balance account).val →
    HasAll (holds account) sys.pool.contract.lenderRequiredAttrs
  debt : ∀ b, (sys.pool.getScaledBorrow b).val < (sys'.pool.getScaledBorrow b).val →
    HasAll (holds b) sys.pool.contract.borrowerRequiredAttrs
  collateral : ∀ b asset, (amountOf (sys.pool.getBorrowerCollateral b) asset).val <
      (amountOf (sys'.pool.getBorrowerCollateral b) asset).val →
    HasAll (holds b) sys.pool.contract.borrowerRequiredAttrs

theorem SystemStep.permitted (h : SystemStep w sys tx sys') (hwired : Wired w sys.token)
    (hsys : InStep w 0 sys) (host : AnswersFrom tx.deps holds) : Permitted holds sys sys' := by
  have hhost : ∀ e, sys.poolEvent w tx = some e → AnswersFrom e.deps holds := by
    intro e hevent
    obtain ⟨token, hdeps⟩ := poolEvent_deps hevent
    rw [hdeps]
    exact host.askToken w.token token
  -- The pool's part of the transaction; the account that is followed does not matter for it.
  have hpool : (∃ e, AnswersFrom e.deps holds ∧ PoolStep sys.pool e sys'.pool) ∨
      sys'.pool = sys.pool := by
    rcases h.accountEffect hwired hsys.bound (fun he => w.distinct he.symm) with
      ⟨e, hevent, -, hstep, -⟩ | ⟨-, hsame, -⟩
    · exact Or.inl ⟨e, hhost e hevent, hstep⟩
    · exact Or.inr hsame
  refine ⟨fun account hup => ?_, fun b hup => ?_, fun b asset hup => ?_⟩
  · by_cases haccount : account = w.pool
    · have hzero := (SystemStep.inStep h hwired hsys).holding
      rw [haccount, hzero] at hup
      exact absurd hup (Nat.not_lt_zero _)
    · rcases h.accountEffect hwired hsys.bound haccount with
        ⟨e, hevent, -, hstep, heffect⟩ | ⟨-, -, hbalance⟩
      · exact heffect.balance_lt hstep (hhost e hevent) hup
      · rw [hbalance] at hup
        exact absurd hup (Nat.lt_irrefl _)
  · rcases hpool with ⟨e, hanswers, hstep⟩ | hsame
    · obtain ⟨rfl, amount, hmsg⟩ := hstep.debtUp hup
      intro required hmem
      refine hstep.needs_met hanswers (e.info.sender, required) ?_
      rw [Event.needs, hmsg]
      exact List.mem_map.mpr ⟨required, hmem, rfl⟩
    · rw [hsame] at hup
      exact absurd hup (Nat.lt_irrefl _)
  · rcases hpool with ⟨e, hanswers, hstep⟩ | hsame
    · obtain ⟨rfl, hmsg⟩ := hstep.collateralUp hup
      intro required hmem
      refine hstep.needs_met hanswers (e.info.sender, required) ?_
      rw [Event.needs, hmsg]
      exact List.mem_map.mpr ⟨required, hmem, rfl⟩
    · rw [hsame] at hup
      exact absurd hup (Nat.lt_irrefl _)

/-- A new pool has no debts and no collateral, and its token no holders. -/
theorem SystemStart.nothing {sys₀ : System} (start : SystemStart w sys₀) (account : Addr)
    (asset : String) :
    (sys₀.token.balance account).val = 0 ∧ (sys₀.pool.getScaledBorrow account).val = 0 ∧
      (amountOf (sys₀.pool.getBorrowerCollateral account) asset).val = 0 := by
  obtain ⟨t, hdeployed⟩ := start.deployed
  have hfresh := hdeployed.fresh
  refine ⟨?_, ?_, ?_⟩
  · have hle := start.inStep.ledger.balance_le_supply account
    rw [start.empty] at hle
    exact Nat.le_zero.mp hle
  · rw [PoolStorage.getScaledBorrow, hfresh.scaledBorrow]
    rfl
  · rw [PoolStorage.getBorrowerCollateral, hfresh.borrowerCollateral]
    rfl

/-- Along every run of transactions in which the token stays wired to the pool, nobody's repo
tokens, debt or collateral grow without the attributes that the pool then requires.  So whoever
has a position at the end came by it in a transaction in which the account had them all. -/
theorem positions_are_permitted {sys₀ : System} {ts : List (Transition System Tx)}
    (start : SystemStart w sys₀) (run : Run (SystemStep w) sys₀ ts sys)
    (wired : ∀ x ∈ ts, Wired w x.post.token) (holds : Transition System Tx → Addr → List String)
    (host : ∀ x ∈ ts, AnswersFrom x.label.deps (holds x)) :
    (∀ x ∈ ts, Permitted (holds x) x.pre x.post) ∧
      (∀ account, 0 < (sys.token.balance account).val →
        ∃ x ∈ ts, HasAll (holds x account) x.pre.pool.contract.lenderRequiredAttrs) ∧
      ∀ b asset, 0 < (sys.pool.getScaledBorrow b).val ∨
          0 < (amountOf (sys.pool.getBorrowerCollateral b) asset).val →
        ∃ x ∈ ts, HasAll (holds x b) x.pre.pool.contract.borrowerRequiredAttrs := by
  have hpermitted : ∀ x ∈ ts, Permitted (holds x) x.pre x.post := by
    intro x hx
    obtain ⟨hsys, hwired⟩ := start.inStep_pre run wired x hx
    exact (run.isStep x hx).permitted hwired hsys (host x hx)
  refine ⟨hpermitted, fun account hpos => ?_, fun b asset hpos => ?_⟩
  · rw [← (start.nothing account "").1] at hpos
    obtain ⟨x, hx, hup⟩ := run.exists_lt (m := fun s => (s.token.balance account).val) hpos
    exact ⟨x, hx, (hpermitted x hx).tokens account hup⟩
  · obtain ⟨-, hdebt, hheld⟩ := start.nothing b asset
    rcases hpos with hpos | hpos
    · rw [← hdebt] at hpos
      obtain ⟨x, hx, hup⟩ := run.exists_lt (m := fun s => (s.pool.getScaledBorrow b).val) hpos
      exact ⟨x, hx, (hpermitted x hx).debt b hup⟩
    · rw [← hheld] at hpos
      obtain ⟨x, hx, hup⟩ := run.exists_lt
        (m := fun s => (amountOf (s.pool.getBorrowerCollateral b) asset).val) hpos
      exact ⟨x, hx, (hpermitted x hx).collateral b asset hup⟩

end

namespace Demo

/-- Who holds which attributes. -/
def registry : Addr → List String
  | "lender" => ["us.kyc.pb"]
  | "alice" => ["other.pb", "borrower.pb"]
  | _ => ["hackkyc.pb"]

/-- The host that answers from the registry, on one page. -/
def registryDeps : Deps :=
  { deps 10 with
    attributeNames := fun account name => .ok ((registry account).filter (· = name))
    scan := fun account suffix _ =>
      .ok ⟨(registry account).filter fun name => suffix.toList.isSuffixOf name.toList, none⟩ }

theorem registryDeps_answers : AnswersFrom registryDeps registry where
  exact account name := by
    refine ⟨_, rfl, ?_⟩
    rw [ne_eq, List.filter_eq_nil_iff]
    simp
  scan account suffix := ⟨_, .last rfl rfl, by rw [List.flatten_singleton]⟩

/-- Lenders need a name below `kyc.pb`, and borrowers exactly `borrower.pb`. -/
def permissionedMsg : InstantiateMsg :=
  { msg with lenderRequiredAttrs := ["*.kyc.pb"], borrowerRequiredAttrs := ["borrower.pb"] }

/-- A lender and a borrower arrive. -/
def arrivals : List Tx :=
  [tx "lender" [⟨"usd", 1000⟩] (.pool .lend), tx "alice" [⟨"gold", 100⟩] (.pool .addCollateral),
    tx "alice" [] (.pool (.borrow 500))].map fun t => { t with deps := registryDeps }

/-- The lender holds a thousand tokens, and Alice owes five hundred. -/
def arrivalsCheck (sys : System) : Bool :=
  decide ((sys.token.balance "lender").val = 1000) &&
    decide ((sys.pool.getScaledBorrow "alice").val = 500)

theorem arrivals_ok : transactCheck wiring (deps 10) (env 0) ⟨"owner", []⟩ permissionedMsg tokenMsg
    bank arrivals arrivalsCheck = true := by
  decide +kernel

theorem arrivals_deps {x : Tx} (h : x ∈ arrivals) : x.deps = registryDeps := by
  obtain ⟨t, -, rfl⟩ := List.mem_map.mp h
  rfl

end Demo

/-- The lender holds a name below `kyc.pb`, and Alice the one that borrowers need. -/
theorem positions_are_permitted_arrivals :
    ∃ sys₀ ts sys, SystemStart Demo.wiring sys₀ ∧ Run (SystemStep Demo.wiring) sys₀ ts sys ∧
      (sys.token.balance "lender").val = 1000 ∧ (sys.pool.getScaledBorrow "alice").val = 500 ∧
      (∃ x ∈ ts, HasAll (Demo.registry "lender") x.pre.pool.contract.lenderRequiredAttrs) ∧
      ∃ x ∈ ts, HasAll (Demo.registry "alice") x.pre.pool.contract.borrowerRequiredAttrs := by
  obtain ⟨sys₀, ts, sys, start, run, wired, htxs, hcheck⟩ := exists_systemRun Demo.arrivals_ok
  simp only [Demo.arrivalsCheck, Bool.and_eq_true, decide_eq_true_eq] at hcheck
  obtain ⟨hlent, hborrowed⟩ := hcheck
  have host : ∀ x ∈ ts, AnswersFrom x.label.deps Demo.registry := by
    intro x hx
    have hmem : x.label ∈ Demo.arrivals := htxs ▸ List.mem_map_of_mem hx
    rw [Demo.arrivals_deps hmem]
    exact Demo.registryDeps_answers
  obtain ⟨-, htokens, hpositions⟩ := positions_are_permitted start run wired
    (fun _ => Demo.registry) host
  exact ⟨sys₀, ts, sys, start, run, hlent, hborrowed, htokens "lender" (by omega),
    hpositions "alice" "gold" (Or.inl (by omega))⟩

end DemocratizedPrime
