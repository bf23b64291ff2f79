import DemocratizedPrime.RepoToken.Balance
import DemocratizedPrime.System.Holders
import DemocratizedPrime.System.LockStep

/-!
# What a repo token shows is what the pool pays

The token shows a holder the value of the scaled balance at the liquidity index that the
pool reports.  The pool pays a full withdrawal at the index that it accrues to and saves.
Both indexes are the one of `AccruedTo`, which is unique, so the two amounts are the same
(`balance_shown_is_paid`).

The total supply is shown by the same conversion of the same index.  The balances of some
holders are parts of the supply that are rounded down one by one, so together they are at
most the supply that is shown.
-/

namespace DemocratizedPrime

open Result Transitions ShareLedger RepoToken Rounding

variable {w : Wiring} {sys sys' : System}

namespace System

/-- The answer of the host to `GetReserve` in a block. -/
def getReserve (w : Wiring) (env : Env) (sys : System) (contract : Addr) :
    StdResult ReserveResponseV1 :=
  if contract = w.pool then
    match queryReserve sys.pool env with
    | .ok answer => .ok answer
    | .error (.std m) => .error s!"Generic error: Querier contract error: {m}"
    | .error _ => .error "Generic error: Querier contract error"
  else .error "Generic error: Querier system error: No such contract"

/-- `Balance`, as the token answers it in a block. -/
def shownBalance (w : Wiring) (deps : Deps) (env : Env) (sys : System) (address : String) :
    ContractResult Uint128 :=
  queryBalance deps (sys.getReserve w env) sys.token address

/-- `TokenInfo`, as the token answers it in a block. -/
def shownTokenInfo (w : Wiring) (deps : Deps) (env : Env) (sys : System) :
    ContractResult TokenInfoResponse :=
  queryTokenInfo deps (sys.getReserve w env) sys.token

end System

/-- A transaction that withdraws all that a holder has: the holder sends the balance with
`WithdrawExact`, or the owner withdraws for the holder without an amount. -/
inductive FullWithdrawal (w : Wiring) (sys : System) (holder : Addr) (tx : Tx) : Prop
  | exact (sender : tx.info.sender = holder) {commitFunds : Option Bool}
      (msg : tx.msg = .token (.send w.pool (sys.token.balance holder)
        (.ok (.withdrawExact commitFunds))))
  | owner {lender : String} (lender_eq : trim lender = holder) {commitFunds : Option Bool}
      (msg : tx.msg = .pool (.withdraw lender none commitFunds))

section

variable {deps : Deps} {env : Env} {holder : Addr}

/-! ## The index of the answer -/

theorem getReserve_eq_ok {answer : ReserveResponseV1} :
    sys.getReserve w env w.pool = .ok answer ↔ queryReserve sys.pool env = .ok answer := by
  unfold System.getReserve
  rw [if_pos rfl]
  split
  · rename_i answer' hquery
    rw [hquery]
    simp
  · rename_i hquery
    rw [hquery]
    simp
  · rename_i hquery
    rw [hquery]
    simp

/-- The token reads the index that an accrual would save. -/
theorem queryLiquidityIndex_eq_ok {index : Decimal256} :
    queryLiquidityIndex (sys.getReserve w env) w.pool = .ok index ↔
      IsOk (queryReserve sys.pool env) ∧
        ∃ r, AccruedTo sys.pool env.blockTime r ∧ index = r.liquidityIndex := by
  simp only [queryLiquidityIndex, bind_eq_ok, fromStd_eq_ok, getReserve_eq_ok, mapError_eq_ok]
  constructor
  · rintro ⟨answer, hquery, hread⟩
    obtain ⟨r, hr, htext⟩ := queryReserve_spec hquery
    rw [htext, Decimal256.fromStr_toText] at hread
    exact ⟨⟨answer, hquery⟩, r, hr, (Except.ok.inj hread).symm⟩
  · rintro ⟨⟨answer, hquery⟩, r, hr, rfl⟩
    obtain ⟨r', hr', htext⟩ := queryReserve_spec hquery
    obtain rfl := hr.unique hr'
    refine ⟨answer, hquery, ?_⟩
    rw [htext, Decimal256.fromStr_toText]

/-- A conversion by the token is a conversion by the pool at the accrued index. -/
theorem underlyingAmount_eq_ok {scaled amount : Uint128} :
    underlyingAmount (sys.getReserve w env) scaled (some w.pool) = .ok amount ↔
      IsOk (queryReserve sys.pool env) ∧ ∃ r, AccruedTo sys.pool env.blockTime r ∧
        scaledToUnderlyingLiquidity scaled r.liquidityIndex = .ok amount := by
  simp only [underlyingAmount, bind_eq_ok, queryLiquidityIndex_eq_ok, scaledToUnderlyingFloor_eq_ok]
  constructor
  · rintro ⟨index, ⟨hquery, r, hr, rfl⟩, hamount⟩
    exact ⟨hquery, r, hr, hamount⟩
  · rintro ⟨hquery, r, hr, hamount⟩
    exact ⟨r.liquidityIndex, ⟨hquery, r, hr, rfl⟩, hamount⟩

theorem shownBalance_eq_ok (hwired : Wired w sys.token) {address : String} {amount : Uint128} :
    sys.shownBalance w deps env address = .ok amount ↔
      deps.addrError address = none ∧ IsOk (queryReserve sys.pool env) ∧
        ∃ r, AccruedTo sys.pool env.blockTime r ∧
          scaledToUnderlyingLiquidity (sys.token.balance address) r.liquidityIndex =
            .ok amount := by
  have hpool : sys.token.config.poolAddress = some w.pool := by rw [hwired]
  simp only [System.shownBalance, queryBalance, bind_eq_ok, addrValidate_eq_ok, hpool,
    underlyingAmount_eq_ok]
  constructor
  · rintro ⟨_, ⟨hvalid, rfl⟩, hamount⟩
    exact ⟨hvalid, hamount⟩
  · rintro ⟨hvalid, hamount⟩
    exact ⟨address, ⟨hvalid, rfl⟩, hamount⟩

theorem shownTokenInfo_spec (hwired : Wired w sys.token) {info : TokenInfoResponse}
    (h : sys.shownTokenInfo w deps env = .ok info) :
    ∃ r, AccruedTo sys.pool env.blockTime r ∧
      scaledToUnderlyingLiquidity sys.token.tokenInfo.totalSupply r.liquidityIndex =
        .ok info.totalSupply := by
  have hpool : sys.token.config.poolAddress = some w.pool := by rw [hwired]
  simp only [System.shownTokenInfo, queryTokenInfo, hpool, validateOptional, bind_eq_ok,
    addrValidate_eq_ok, pure_eq_ok] at h
  obtain ⟨_, ⟨_, ⟨-, rfl⟩, rfl⟩, supply, hsupply, rfl⟩ := h
  exact (underlyingAmount_eq_ok.mp hsupply).2

/-! ## What is paid -/

/-- A call of the pool pays the account, and nobody else, the value of the balance. -/
def PaysValue (s : PoolStorage) (e : Event) (balance : Uint128) (account : Addr) : Prop :=
  ∃ r paid, AccruedTo s e.env.blockTime r ∧
    scaledToUnderlyingLiquidity balance r.liquidityIndex = .ok paid ∧
    e.response.bankSends = [(account, [⟨s.contract.lendingDenom.name, paid⟩])]

variable {s s' : PoolStorage} {e : Event}

theorem withdrawExact_paysValue {balance : Uint128} {commitFunds : Option Bool}
    (h : PoolStep s e s')
    (hmsg : e.msg = .receive ⟨holder, balance, .ok (.withdrawExact commitFunds)⟩) :
    PaysValue s e balance holder := by
  cases h.holderEvent with
  | @withdraw token holder' received burned paid exact cf payload msg body messages rule market
      burned_le burned_all redeemed =>
    rw [hmsg] at msg
    cases msg
    cases body
    obtain rfl := burned_all rfl
    obtain ⟨⟨r, hr, hindex⟩, hpaid⟩ := redeemed
    rw [hindex] at hpaid
    refine ⟨r, paid, hr, scaledToUnderlying_of_eq hpaid, ?_⟩
    rw [bankSends_eq messages, List.filterMap_append, withdrawalMessages_bankSends,
      refundMessages_bankSends]
    rfl
  | transfer msg body =>
    rw [hmsg] at msg
    cases msg
    cases body
  | lend msg =>
    rw [hmsg] at msg
    cases msg
  | ownerWithdraw msg =>
    rw [hmsg] at msg
    cases msg
  | quiet _ receive => exact absurd hmsg (receive _)

/-- The owner's withdrawal asks the token for the balance. -/
theorem ownerWithdrawal_paysValue {lender : String} {commitFunds : Option Bool}
    {token : TokenStorage} (h : PoolStep s e s')
    (hmsg : e.msg = .withdraw lender none commitFunds)
    (hbound : s.contract.repoTokenCw20Address = some w.token)
    (hdeps : e.deps = deps.askToken w.token token) :
    PaysValue s e (token.balance (trim lender)) (trim lender) := by
  have hd : executeWithdraw e.deps s e.env e.info lender none commitFunds =
      .ok (s', e.response) := by
    have hdispatch := execute_eq_ok h
    rw [hmsg] at hdispatch
    exact hdispatch
  obtain ⟨repo, r, r', bal, max, t, a, hrepo, -, -, hr, -, hbal, -, -, hamounts, -, -, -,
    hmessages⟩ := executeWithdraw_spec hd
  rw [hbound] at hrepo
  obtain rfl := Option.some.inj hrepo
  rw [hdeps] at hbal
  have hbalance := askToken_scaledBalance hbal
  obtain ⟨hpaid, ⟨-, hall, -⟩ | ⟨_, hno, -⟩⟩ := ownerWithdrawAmounts_spec hamounts
  · rw [hall, hbalance] at hpaid
    refine ⟨r, a.underlyingToSend, hr, scaledToUnderlying_of_eq hpaid, ?_⟩
    exact (bankSends_eq hmessages).trans (withdrawalMessages_bankSends s e w.token (trim lender)
      (.burnFrom (trim lender) a.scaledToBurn) a.underlyingToSend commitFunds)
  · cases hno

/-- A message to the pool reaches the pool, and a `Send` does. -/
theorem SystemStep.poolEvent_ne_none {tx : Tx} (h : SystemStep w sys tx sys')
    (hmsg : (∃ m, tx.msg = .pool m) ∨ ∃ contract amount body,
      tx.msg = .token (.send contract amount body)) : sys.poolEvent w tx ≠ none := by
  have haccount : w.token ≠ w.pool := fun he => w.distinct he.symm
  intro hnone
  simp only [SystemStep, System.transact, bind_eq_ok, ensure_eq_ok, exists_const] at h
  obtain ⟨-, h⟩ := h
  rcases hmsg with ⟨m, hmsg⟩ | ⟨contract, amount, body, hmsg⟩
  · rw [hmsg] at h
    simp only [bind_eq_ok] at h
    obtain ⟨bank, -, h⟩ := h
    obtain ⟨e, hanswer, -⟩ := callPool_answer haccount h
    rw [System.poolEvent, hmsg] at hnone
    dsimp only at hnone
    rw [hanswer] at hnone
    cases hnone
  · rw [hmsg] at h
    simp only [bind_eq_ok, System.callToken, Prod.exists] at h
    obtain ⟨bank, -, token, response, hexecute, h⟩ := h
    cases execute_effect hexecute with
    | send pool nonzero change call =>
      rw [call] at h
      simp only [bind_eq_ok, ensure_eq_ok, exists_const] at h
      obtain ⟨-, h⟩ := h
      obtain ⟨e, hanswer, -⟩ := callPool_answer haccount h
      rw [System.poolEvent, hmsg] at hnone
      dsimp only at hnone
      rw [hexecute] at hnone
      dsimp only at hnone
      rw [call] at hnone
      dsimp only [Option.bind] at hnone
      rw [hanswer] at hnone
      cases hnone

theorem FullWithdrawal.paysValue {tx : Tx} (hwithdrawal : FullWithdrawal w sys holder tx)
    (h : SystemStep w sys tx sys') (hwired : Wired w sys.token)
    (hbound : sys.pool.contract.repoTokenCw20Address = some w.token) :
    ∃ e, sys.poolEvent w tx = some e ∧ e.env = tx.env w.pool ∧
      PaysValue sys.pool e (sys.token.balance holder) holder := by
  -- The balance of the token itself is nobody's, so it can be the one that is followed.
  have haccount : w.token ≠ w.pool := fun he => w.distinct he.symm
  cases h.txEffect hwired hbound haccount with
  | @pool e event env step tx_msg deps info direct balance =>
    cases hwithdrawal with
    | exact sender msg =>
      rw [msg] at tx_msg
      cases tx_msg
    | @owner lender lender_eq commitFunds msg =>
      rw [msg] at tx_msg
      have hmsg := (TxMsg.pool.inj tx_msg).symm
      rw [← lender_eq]
      exact ⟨e, event, env, ownerWithdrawal_paysValue step hmsg hbound deps⟩
  | @send e amount body event env step tx_msg msg balance =>
    cases hwithdrawal with
    | @exact sender commitFunds hmsg =>
      rw [hmsg] at tx_msg
      cases tx_msg
      rw [sender] at msg
      exact ⟨e, event, env, withdrawExact_paysValue step msg⟩
    | owner lender_eq hmsg =>
      rw [hmsg] at tx_msg
      cases tx_msg
  | quiet event pool balance =>
    refine absurd event (h.poolEvent_ne_none ?_)
    cases hwithdrawal with
    | exact sender msg => exact Or.inr ⟨_, _, _, msg⟩
    | owner lender_eq msg => exact Or.inl ⟨_, msg⟩

/-! ## The balances and the supply -/

/-- Balances that are shown together are covered by the supply that is shown. -/
theorem sum_shownBalance_le (hsys : InStep w 0 sys) (hwired : Wired w sys.token)
    {holders : Finset Addr} {balance : Addr → Uint128} {info : TokenInfoResponse}
    (hbalance : ∀ a ∈ holders, sys.shownBalance w deps env a = .ok (balance a))
    (hinfo : sys.shownTokenInfo w deps env = .ok info) :
    ∑ a ∈ holders, (balance a).val ≤ info.totalSupply.val := by
  obtain ⟨r, hr, hsupply⟩ := shownTokenInfo_spec hwired hinfo
  have hshown : ∀ a ∈ holders, (balance a).val =
      (sys.token.balance a).val * r.liquidityIndex.atomics / decimalFractional := by
    intro a ha
    obtain ⟨-, -, r', hr', hvalue⟩ := (shownBalance_eq_ok hwired).mp (hbalance a ha)
    rw [hr.unique hr']
    exact scaledToUnderlying_eq hvalue
  have hparts := sum_floorDiv_le r.liquidityIndex.atomics decimalFractional
    (holders.toList.map fun a => (sys.token.balance a).val)
  rw [List.map_map] at hparts
  simp only [Function.comp_def, Finset.sum_map_toList] at hparts
  have howned : ∑ a ∈ holders, (sys.token.balance a).val ≤ sys.token.tokenInfo.totalSupply.val := by
    rw [hsys.ledger.supply]
    exact sum_owned_le_outstanding _ _
  calc ∑ a ∈ holders, (balance a).val
      = ∑ a ∈ holders,
          (sys.token.balance a).val * r.liquidityIndex.atomics / decimalFractional :=
        Finset.sum_congr rfl hshown
    _ ≤ (∑ a ∈ holders, (sys.token.balance a).val) * r.liquidityIndex.atomics /
          decimalFractional := hparts
    _ ≤ sys.token.tokenInfo.totalSupply.val * r.liquidityIndex.atomics / decimalFractional :=
        Nat.div_le_div_right (Nat.mul_le_mul_right _ howned)
    _ = info.totalSupply.val := (scaledToUnderlying_eq hsupply).symm

end

/-- In every state that transactions lead to while the token stays wired to the pool, and at
every block time: a holder who takes out everything, or is paid out by the owner, is paid what
`Balance` shows, and the balances of different holders add up to at most the supply of
`TokenInfo`. -/
theorem balance_shown_is_paid {sys₀ : System} {ts : List (Transition System Tx)}
    (start : SystemStart w sys₀) (run : Run (SystemStep w) sys₀ ts sys)
    (wired : ∀ t ∈ ts, Wired w t.post.token) (deps : Deps) (env : Env) :
    (∀ holder tx sys', tx.blockTime = env.blockTime → FullWithdrawal w sys holder tx →
      SystemStep w sys tx sys' → ∃ e paid, sys.poolEvent w tx = some e ∧
        e.response.bankSends = [(holder, [⟨sys.pool.contract.lendingDenom.name, paid⟩])] ∧
        (∀ amount, sys.shownBalance w deps env holder = .ok amount → amount = paid) ∧
        (deps.addrError holder = none → IsOk (queryReserve sys.pool env) →
          sys.shownBalance w deps env holder = .ok paid)) ∧
    ∀ (holders : Finset Addr) (balance : Addr → Uint128) (info : TokenInfoResponse),
      (∀ a ∈ holders, sys.shownBalance w deps env a = .ok (balance a)) →
      sys.shownTokenInfo w deps env = .ok info →
      ∑ a ∈ holders, (balance a).val ≤ info.totalSupply.val := by
  obtain ⟨hsys, hwired⟩ := start.inStep_run run wired
  refine ⟨?_, fun _ _ _ hbalance hinfo => sum_shownBalance_le hsys hwired hbalance hinfo⟩
  intro holder tx sys' htime hwithdrawal hstep
  obtain ⟨e, hevent, henv, r, paid, hr, hvalue, hsends⟩ :=
    hwithdrawal.paysValue hstep hwired hsys.bound
  have hblock : e.env.blockTime = env.blockTime := by
    rw [henv]
    exact htime
  rw [hblock] at hr
  refine ⟨e, paid, hevent, hsends, fun amount hamount => ?_, fun hvalid hquery => ?_⟩
  · obtain ⟨-, -, r', hr', hvalue'⟩ := (shownBalance_eq_ok hwired).mp hamount
    obtain rfl := hr.unique hr'
    rw [hvalue] at hvalue'
    exact (Except.ok.inj hvalue').symm
  · exact (shownBalance_eq_ok hwired).mpr ⟨hvalid, hquery, r, hr, hvalue⟩

namespace Demo

/-- The same transaction, a year later. -/
def aYearLater (t : Tx) : Tx := { t with blockTime := (env 31536000).blockTime }

/-- After the exchanges Alice borrows, and repays with the interest of a year. -/
def interestEarned : List Tx :=
  exchanges ++ [tx "alice" [⟨"gold", 100⟩] (.pool .addCollateral),
    tx "alice" [] (.pool (.borrow 400)), aYearLater (tx "alice" [⟨"usd", 500⟩] (.pool .repay))]

/-- The lender takes out everything. -/
def lenderLeaves : Tx :=
  aYearLater (tx "lender" [] (.token (.send "pool" 700 (.ok (.withdrawExact none)))))

/-- The owner pays Carol out. -/
def carolPaidOut : Tx := aYearLater (tx "owner" [] (.pool (.withdraw "carol" none none)))

/-- The lender holds 700 tokens that are shown as 729 coins, both payouts succeed, and the two
queries answer. -/
def receiptsCheck (sys : System) : Bool :=
  decide (sys.token.balance "lender" = 700) &&
    decide ((sys.shownBalance wiring (deps 10) (env 31536000) "lender").toOption = some 729) &&
    (sys.transact wiring lenderLeaves).isOk && (sys.transact wiring carolPaidOut).isOk &&
    (queryReserve sys.pool (env 31536000)).isOk &&
    (sys.shownTokenInfo wiring (deps 10) (env 31536000)).isOk

theorem receipts_ok : transactCheck wiring (deps 10) (env 0) ⟨"owner", []⟩ msg tokenMsg bank
    interestEarned receiptsCheck = true := by
  decide +kernel

theorem receipts_check {sys : System} (h : receiptsCheck sys = true) :
    sys.token.balance "lender" = 700 ∧
      (sys.shownBalance wiring (deps 10) (env 31536000) "lender").toOption = some 729 ∧
      (∃ sys', SystemStep wiring sys lenderLeaves sys') ∧
      (∃ sys', SystemStep wiring sys carolPaidOut sys') ∧
      IsOk (queryReserve sys.pool (env 31536000)) ∧
      ∃ info, sys.shownTokenInfo wiring (deps 10) (env 31536000) = .ok info := by
  simp only [receiptsCheck, Bool.and_eq_true, decide_eq_true_eq, isOk_iff] at h
  obtain ⟨⟨⟨⟨⟨hbalance, hshown⟩, hleaves⟩, hpaid⟩, hquery⟩, hinfo⟩ := h
  exact ⟨hbalance, hshown, hleaves, hpaid, hquery, hinfo⟩

end Demo

/-- The lender and Carol are shown what they can take out, the lender 729 coins for 700 tokens,
and the supply covers both. -/
theorem balance_shown_is_paid_exchanges :
    ∃ sys₀ ts sys, SystemStart Demo.wiring sys₀ ∧ Run (SystemStep Demo.wiring) sys₀ ts sys ∧
      sys.token.balance "lender" = 700 ∧ ∃ (carol : Uint128) (info : TokenInfoResponse),
        sys.shownBalance Demo.wiring (Demo.deps 10) (Demo.env 31536000) "lender" = .ok 729 ∧
        sys.shownBalance Demo.wiring (Demo.deps 10) (Demo.env 31536000) "carol" = .ok carol ∧
        sys.shownTokenInfo Demo.wiring (Demo.deps 10) (Demo.env 31536000) = .ok info ∧
        (∃ e, sys.poolEvent Demo.wiring Demo.lenderLeaves = some e ∧
          e.response.bankSends = [("lender", [⟨sys.pool.contract.lendingDenom.name, 729⟩])]) ∧
        (∃ e, sys.poolEvent Demo.wiring Demo.carolPaidOut = some e ∧
          e.response.bankSends = [("carol", [⟨sys.pool.contract.lendingDenom.name, carol⟩])]) ∧
        729 + carol.val ≤ info.totalSupply.val := by
  obtain ⟨sys₀, ts, sys, start, run, wired, -, hcheck⟩ := exists_systemRun Demo.receipts_ok
  obtain ⟨hbalance, hshown, ⟨_, hleaves⟩, ⟨_, hpaid⟩, hquery, info, hinfo⟩ :=
    Demo.receipts_check hcheck
  obtain ⟨hpays, hsum⟩ :=
    balance_shown_is_paid start run wired (Demo.deps 10) (Demo.env 31536000)
  obtain ⟨e₁, lender, hevent₁, hsends₁, -, hlender⟩ := hpays "lender" Demo.lenderLeaves _ rfl
    (.exact rfl (by rw [hbalance]; rfl)) hleaves
  obtain ⟨e₂, carol, hevent₂, hsends₂, -, hcarol⟩ := hpays "carol" Demo.carolPaidOut _ rfl
    (.owner (show trim "carol" = "carol" by decide +kernel) rfl) hpaid
  have hlender := hlender rfl hquery
  have hcarol := hcarol rfl hquery
  obtain rfl : lender = 729 := by
    rw [hlender] at hshown
    exact Option.some.inj hshown
  refine ⟨sys₀, ts, sys, start, run, hbalance, carol, info, hlender, hcarol, hinfo,
    ⟨e₁, hevent₁, hsends₁⟩, ⟨e₂, hevent₂, hsends₂⟩, ?_⟩
  have hle := hsum {"lender", "carol"} (fun a => if a = "lender" then 729 else carol) info ?_ hinfo
  · have hvalue : (729 : Uint128).val = 729 := rfl
    simpa [hvalue] using hle
  · intro a ha
    simp only [Finset.mem_insert, Finset.mem_singleton] at ha
    rcases ha with rfl | rfl
    · exact hlender
    · exact hcarol

end DemocratizedPrime
