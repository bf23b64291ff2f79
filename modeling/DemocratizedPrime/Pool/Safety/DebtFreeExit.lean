import DemocratizedPrime.Pool.Safety.Custody
import DemocratizedPrime.Pool.Safety.CommitRules
import DemocratizedPrime.Pool.Safety.ExitFairness
import DemocratizedPrime.Pool.Reporting

/-!
# A borrower without debt can leave

A removal of collateral has many checks: attributes, the list of supported assets, the
holdings, the health at oracle prices, the totals, the market of a commitment, and the bank.
For a borrower without debt only a few of them can refuse.  `RemovalAllowed` lists these:
what the borrower asks for is held, the borrower has the attributes, the pool is not paused,
and the interest and the rates of the block are computed.

The others cannot: what is held is supported and in the totals (`CollateralLedger`), a rule
to commit comes with a market (`MarketSet`), nothing is asked of the oracle, and the coins
are there (`InCustody`).
-/

namespace DemocratizedPrime

open Result Transitions

section

variable {s : PoolStorage} {deps : Deps} {env : Env} {info : MessageInfo} {toRemove : Amounts}

/-- What a removal by a borrower without debt depends on. -/
structure RemovalAllowed (s : PoolStorage) (deps : Deps) (env : Env) (info : MessageInfo)
    (toRemove : Amounts) : Prop where
  running : s.contract.operationalState ≠ .paused
  funds : info.funds = []
  attrs : validateBorrowerAttrs deps info.sender s.contract.borrowerRequiredAttrs = .ok ()
  nonempty : toRemove.isEmpty = false
  positive : ∀ x ∈ toRemove.toList, x.2.val ≠ 0
  held : ∀ a, (amountOf toRemove a).val ≤ (amountOf (s.getBorrowerCollateral info.sender) a).val
  rates : ∃ r, AccruedTo s env.blockTime r ∧ RatesComputed r s.contract.rateParams

/-! ## The loops -/

/-- The loop over the amounts goes through, when they are held. -/
theorem isOk_removeCollateralEntries {c : ContractStateV1} {l : List (String × Uint128)}
    {m : Amounts} (hentries : ∀ x ∈ l, x.2.val ≠ 0 ∧ c.supports x.1 = true)
    (h : ∀ a, coinsOf a (l.map entryCoin) ≤ (amountOf m a).val) :
    IsOk (l.foldlM (removeCollateralEntry c) m) := by
  induction l generalizing m with
  | nil => exact isOk_pure
  | cons x rest ih =>
    obtain ⟨hpos, hsupported⟩ := hentries x List.mem_cons_self
    have hfirst := h x.1
    rw [List.map_cons, coinsOf_cons, entryCoin, if_pos rfl] at hfirst
    dsimp only at hfirst
    have hone : IsOk (removeCollateralEntry c m x) := by
      refine IsOk.ensure hpos (IsOk.ensure hsupported (IsOk.ensure (by omega) ?_))
      have hsome : (amountOf m x.1).checkedSub x.2 ≠ none := by
        rw [ne_eq, Uint.checkedSub_eq_none]
        omega
      obtain ⟨left, hleft⟩ := Option.ne_none_iff_exists'.mp hsome
      exact IsOk.bind (okOr_eq_ok.mpr hleft) isOk_pure
    obtain ⟨m', hm'⟩ := hone
    rw [List.foldlM_cons]
    refine IsOk.bind hm' (ih (fun y hy => hentries y (List.mem_cons_of_mem _ hy)) fun a => ?_)
    have htaken := (removeCollateralEntry_spec hm').2.amounts a
    have ha := h a
    rw [List.map_cons, coinsOf_cons] at ha
    rw [coinsOf_cons, coinsOf_nil] at htaken
    omega

/-- So does the loop over the totals: its only error is the underflow. -/
theorem isOk_subtractTotals {l : List (String × Uint128)}
    (h : ∀ a, coinsOf a (l.map entryCoin) ≤ (amountOf s.totalCollateralByAsset a).val) :
    IsOk (l.foldlM subtractTotalCollateralEntry s) := by
  refine (noUnderflow_subtractTotals h).isOk (AllErrors.foldlM (fun s x => ?_) l s)
  simp [subtractTotalCollateralEntry, PoolStorage.subtractTotalCollateral, ledgerUnderflows]

/-! ## The pool -/

theorem isOk_scaledToUnderlyingBorrow_zero {scaled : Uint128} {index : Decimal256}
    (h : scaled.val = 0) : scaledToUnderlyingBorrow scaled index = .ok 0 := by
  apply scaledToUnderlying_of_eq
  rw [h, Nat.zero_mul, Nat.zero_div]
  rfl

/-- The pool accepts what is allowed. -/
theorem RemovalAllowed.isOk (hreach : Reachable s)
    (hdebt : (s.getScaledBorrow info.sender).val = 0)
    (h : RemovalAllowed s deps env info toRemove) :
    IsOk (execute deps s env info (.removeCollateral toRemove)) := by
  have hledger := hreach.collateralLedger
  obtain ⟨r, hr, hrates⟩ := h.rates
  have hheld : ∀ a, coinsOf a (toRemove.toList.map entryCoin) ≤
      (amountOf (s.getBorrowerCollateral info.sender) a).val := by
    intro a
    rw [coinsOf_toList]
    exact h.held a
  have hentries : ∀ x ∈ toRemove.toList, x.2.val ≠ 0 ∧ s.contract.supports x.1 = true := by
    intro x hx
    refine ⟨h.positive x hx, hledger.supported info.sender x.1 ?_⟩
    have hle := h.held x.1
    rw [amountOf_of_mem hx] at hle
    have hpos := h.positive x hx
    omega
  refine IsOk.ensure (.inr h.running) (IsOk.ensure (.inr rfl) ?_)
  show IsOk (removeCollateral deps s env info toRemove)
  refine IsOk.ensure h.funds (IsOk.bind h.attrs (IsOk.ensure h.nonempty ?_))
  refine IsOk.bind_any (isOk_removeCollateralEntries hentries hheld) fun held _ => ?_
  refine IsOk.bind (updateReserveIndexes_eq_ok (x := (s.setReserveStateV1 r, r)).mpr ⟨hr, rfl⟩) ?_
  refine IsOk.bind (isOk_scaledToUnderlyingBorrow_zero hdebt) (IsOk.bind (a := ()) rfl ?_)
  refine IsOk.bind_any (isOk_subtractTotals fun a => ?_) fun _ _ => ?_
  · exact Nat.le_trans (hheld a) (hledger.held_le_total info.sender a)
  · -- A rule to commit what is removed comes with a market.
    have hmarket : some (s.getBorrowerRequireCommit info.sender) = some true →
        s.contract.commitMarketId.isSome = true :=
      fun hrule => hreach.marketSet info.sender (Or.inl (Option.some.inj hrule))
    have hcommit (res : Response) := addCommitMessage_isOk hmarket res env.contractAddress
      info.sender "remove_collateral" (toRemove.toList.map entryCoin)
    have hsame : (some (s.getBorrowerRequireCommit info.sender) == some true) =
        s.getBorrowerRequireCommit info.sender := by
      cases s.getBorrowerRequireCommit info.sender <;> rfl
    rw [hsame] at hcommit
    exact IsOk.bind_any (hcommit _) fun _ _ =>
      IsOk.bind_any (isOk_attachRates_iff.mpr hrates) fun _ _ => isOk_pure

/-- What the pool accepts is allowed. -/
theorem removalAllowed_of_isOk {s' : PoolStorage} {res : Response}
    (h : execute deps s env info (.removeCollateral toRemove) = .ok (s', res)) :
    RemovalAllowed s deps env info toRemove := by
  have hguards := h
  simp only [execute, bind_eq_ok, ensure_eq_ok, exists_const] at hguards
  obtain ⟨hpaused, -, hd⟩ := hguards
  have hremove : removeCollateral deps s env info toRemove = .ok (s', res) := hd
  obtain ⟨_, _, held, _, hfunds, hentries, htaken, -⟩ := removeCollateral_spec hremove
  simp only [removeCollateral, bind_eq_ok, Prod.exists, updateReserveIndexes_eq_ok, ensure_eq_ok,
    exists_const, pure_eq_ok] at hremove
  obtain ⟨-, ⟨⟩, hattrs, hnonempty, _, -, _, r, ⟨hr, -⟩, _, -, _, -, _, -, _, -, _, hres, -⟩ :=
    hremove
  refine ⟨hpaused.resolve_left (by exact Bool.false_ne_true), hfunds, hattrs, hnonempty,
    fun x hx => (hentries x hx).1, fun a => ?_, r, hr, isOk_attachRates_iff.mp ⟨_, hres⟩⟩
  have hamounts := htaken.amounts a
  rw [coinsOf_toList] at hamounts
  omega

end

/-! ## The transaction -/

section

variable {address : Addr} {t : Timestamp} {w₀ w : World} {ts : List (Transition World Event)}

/-- After every run, a borrower without debt gets collateral out of the pool exactly when the
few conditions of `RemovalAllowed` hold, whatever the oracle answers.  Where a rule asks for a
commitment of the collateral, the pool returns the message, and `deliver` does not follow what the
host makes of it. -/
theorem debt_free_exit (hdeployed : DeployedAt t w₀.pool) (run : Run (WorldStep address) w₀ ts w)
    {c : Call} {toRemove : Amounts} (hmsg : c.msg = .removeCollateral toRemove)
    (hsender : c.info.sender ≠ address) (haddress : c.env.contractAddress = address)
    (hdebt : (w.pool.getScaledBorrow c.info.sender).val = 0) :
    (∃ response w', WorldStep address w { c with response } w') ↔
      RemovalAllowed w.pool c.deps c.env c.info toRemove := by
  have hreach : Reachable w.pool := ⟨t, w₀.pool, _, hdeployed, WorldStep.poolRun run⟩
  constructor
  · rintro ⟨response, w', hstep⟩
    have hexecute : execute c.deps w.pool c.env c.info c.msg = .ok (w'.pool, response) :=
      hstep.spec.1
    rw [hmsg] at hexecute
    exact removalAllowed_of_isOk hexecute
  · intro hallowed
    obtain ⟨⟨pool, response⟩, hexecute⟩ := hallowed.isOk hreach hdebt
    have hfunded : payCoins c.info.sender address w.bank c.info.funds = .ok w.bank := by
      rw [hallowed.funds]
      rfl
    rw [← hmsg] at hexecute
    obtain ⟨⟨w', response'⟩, hdeliver⟩ := (InCustody.run hdeployed run).isOk_payout
      (by rw [hmsg]; rfl) ⟨hsender, haddress⟩ hfunded hexecute
    exact ⟨response', w', hdeliver⟩

end

namespace Demo

/-- Bob only deposits, next to Alice who borrows. -/
def deposits : List Call := opening ++ [call "bob" [⟨"gold", 40⟩] .addCollateral]

/-- Bob takes out all that he has, while the oracle answers nothing. -/
def bobLeaves (s : PoolStorage) : Call :=
  ⟨depsFor fun _ => none, env 1000, ⟨"bob", []⟩, .removeCollateral (s.getBorrowerCollateral "bob")⟩

/-- Bob holds collateral without a debt, in a pool that is not paused. -/
def bobLeavesCheck (w : World) : Bool :=
  let c := bobLeaves w.pool
  decide ((w.pool.getScaledBorrow "bob").val = 0) &&
    decide ((amountOf (w.pool.getBorrowerCollateral "bob") "gold").val = 40) &&
    decide (w.pool.contract.operationalState ≠ .paused) &&
    decide (validateBorrowerAttrs c.deps "bob" w.pool.contract.borrowerRequiredAttrs = .ok ()) &&
    decide ((w.pool.getBorrowerCollateral "bob").isEmpty = false) &&
    (w.pool.getBorrowerCollateral "bob").toList.all (fun x => decide (x.2.val ≠ 0)) &&
    match computeEffectiveReserve w.pool c.env.blockTime w.pool.contract.rateParams with
    | .ok r => (Response.new.attachRates r w.pool.contract.rateParams).isOk
    | .error _ => false

theorem deposits_ok : deliverCheck (deps 10) (env 0) ⟨"owner", []⟩ msg bank deposits
    bobLeavesCheck = true := by
  decide +kernel

theorem bobLeaves_check {w : World} (h : bobLeavesCheck w = true) :
    (w.pool.getScaledBorrow "bob").val = 0 ∧
      (amountOf (w.pool.getBorrowerCollateral "bob") "gold").val = 40 ∧
      RemovalAllowed w.pool (depsFor fun _ => none) (env 1000) ⟨"bob", []⟩
        (w.pool.getBorrowerCollateral "bob") := by
  simp only [bobLeavesCheck, Bool.and_eq_true, decide_eq_true_eq, List.all_eq_true] at h
  obtain ⟨⟨⟨⟨⟨⟨hdebt, hheld⟩, hrunning⟩, hattrs⟩, hnonempty⟩, hpositive⟩, hrates⟩ := h
  refine ⟨hdebt, hheld, hrunning, rfl, hattrs, hnonempty, hpositive, fun _ => Nat.le_refl _, ?_⟩
  split at hrates
  · rename_i r hr
    exact ⟨r, hr, isOk_attachRates_iff.mp (isOk_iff.mp hrates)⟩
  · cases hrates

end Demo

/-- Bob gets his gold although no price is known. -/
theorem debt_free_exit_bob :
    ∃ w₀ ts w, DeployedAt (Demo.env 0).blockTime w₀.pool ∧ Run (WorldStep "pool") w₀ ts w ∧
      (amountOf (w.pool.getBorrowerCollateral "bob") "gold").val = 40 ∧
      ∃ response w', WorldStep "pool" w { Demo.bobLeaves w.pool with response } w' := by
  obtain ⟨w₀, ts, w, hdeployed, -, run, -, hcheck⟩ := exists_worldRun Demo.deposits_ok
  obtain ⟨hdebt, hheld, hallowed⟩ := Demo.bobLeaves_check hcheck
  refine ⟨w₀, ts, w, hdeployed, run, hheld, ?_⟩
  exact (debt_free_exit hdeployed run rfl (show ("bob" : Addr) ≠ "pool" by decide) rfl hdebt).mpr
    hallowed

end DemocratizedPrime
