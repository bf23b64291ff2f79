import DemocratizedPrime.RepoToken.Ledger
import DemocratizedPrime.Lib.Replay
import DemocratizedPrime.Pool.Replay

/-!
# Receipt tokens stay where the pool put them

Over any run of messages, under whatever minter and pool address are configured in
between, the supply is the sum of the balances and no balance is stored as zero.

`TokenSafe` is what no step may break.

* The supply changes only when the minter mints or burns.
* An account that is neither the pool nor the minter loses tokens only by its own `Send`
  to the pool, or when the minter burns them.
* No message takes tokens from one account and gives them to another unless the pool is
  one of the two.

The minter and the pool address are those in force before the message.
-/

namespace DemocratizedPrime.RepoToken

open Result ShareLedger Transitions

variable {t t' : TokenStorage} {info : MessageInfo} {msg : ExecuteMsg} {res : TokenResponse}

/-- A token nobody has a balance of, under any configuration. -/
structure TokenStart (t : TokenStorage) : Prop where
  balances : t.balances = ∅
  supply : t.tokenInfo.totalSupply.val = 0

theorem TokenStart.ledger (h : TokenStart t) : TokenLedger t := by
  refine ⟨?_, ?_⟩
  · rw [h.supply, h.balances, outstanding_empty]
  · rw [h.balances]
    exact noZero_empty

/-- The messages that change the supply. -/
def ExecuteMsg.issues : ExecuteMsg → Bool
  | .mint .. | .burn .. | .burnFrom .. => true
  | _ => false

/-- The account sent the tokens that it lost to the pool. -/
def SentToPool (config : Config) (call : TokenCall) (account : Addr) (lost : Nat) : Prop :=
  ∃ pool amount payload, config.poolAddress = some pool ∧ call.info.sender = account ∧
    call.msg = .send pool amount payload ∧ amount.val = lost

/-- The minter burned the tokens that the account lost. -/
def BurnedByMinter (config : Config) (call : TokenCall) (account : Addr) (lost : Nat) : Prop :=
  ∃ amount, call.info.sender = config.minter ∧ call.msg = .burnFrom account amount ∧
    amount.val = lost

/-- What no message of a transition can do to the balances and the supply. -/
structure TokenSafe (x : Transition TokenStorage TokenCall) : Prop where
  supply : x.post.tokenInfo.totalSupply ≠ x.pre.tokenInfo.totalSupply →
    x.label.info.sender = x.pre.config.minter ∧ x.label.msg.issues = true
  losses : ∀ account, x.pre.config.poolAddress ≠ some account → account ≠ x.pre.config.minter →
    ∀ lost, lost ≠ 0 → (x.post.balance account).val + lost = (x.pre.balance account).val →
      SentToPool x.pre.config x.label account lost ∨
        BurnedByMinter x.pre.config x.label account lost
  apart : ∀ a b, x.pre.config.poolAddress ≠ some a → x.pre.config.poolAddress ≠ some b →
    (x.post.balance a).val < (x.pre.balance a).val →
      (x.post.balance b).val ≤ (x.pre.balance b).val

/-! ## One message -/

theorem TokenEffect.supply_guarded (h : TokenEffect t info msg t' res)
    (hne : t'.tokenInfo.totalSupply ≠ t.tokenInfo.totalSupply) :
    info.sender = t.config.minter ∧ msg.issues = true := by
  cases h with
  | updateOwnership _ => exact absurd rfl hne
  | mint minter _ _ _ => exact ⟨minter, rfl⟩
  | burn minter _ _ _ => exact ⟨minter, rfl⟩
  | burnFrom minter _ _ _ => exact ⟨minter, rfl⟩
  | transfer _ _ _ change _ =>
    have hinfo := change.supply
    rw [hinfo] at hne
    exact absurd rfl hne
  | send _ _ change _ =>
    have hinfo := change.supply
    rw [hinfo] at hne
    exact absurd rfl hne
  | updateConfig _ _ => exact absurd rfl hne

/-- Who loses by a transfer is its owner. -/
theorem Transferred.loser {owner recipient account : Addr} {n : Nat}
    (h : Transferred t owner recipient n t')
    (hless : (t'.balance account).val < (t.balance account).val) :
    account = owner ∧ account ≠ recipient ∧
      (t'.balance account).val + n = (t.balance account).val := by
  have hmoved := h.balances.owned account
  unfold TokenStorage.balance at hless ⊢
  by_cases ho : account = owner
  · by_cases hr : account = recipient
    · rw [if_pos ho, if_pos hr] at hmoved
      omega
    · rw [if_pos ho, if_neg hr] at hmoved
      exact ⟨ho, hr, hmoved⟩
  · rw [if_neg ho] at hmoved
    omega

/-- Who gains by a transfer is its recipient. -/
theorem Transferred.gainer {owner recipient account : Addr} {n : Nat}
    (h : Transferred t owner recipient n t')
    (hmore : (t.balance account).val < (t'.balance account).val) : account = recipient := by
  have hmoved := h.balances.owned account
  unfold TokenStorage.balance at hmore
  by_contra hr
  rw [if_neg hr] at hmoved
  omega

/-- Nobody gains by a burn, and only its owner loses. -/
theorem Burned.balance {owner : Addr} {n : Nat} (h : Burned t owner n t') (account : Addr) :
    (t.balance account).val = (t'.balance account).val + if account = owner then n else 0 :=
  h.balances.owned account

theorem TokenEffect.losses {deps : Deps} {env : Env} (h : TokenEffect t info msg t' res)
    {account : Addr} (hpool : t.config.poolAddress ≠ some account)
    (hminter : account ≠ t.config.minter) {lost : Nat} (hlost : lost ≠ 0)
    (hless : (t'.balance account).val + lost = (t.balance account).val) :
    SentToPool t.config ⟨deps, env, info, msg⟩ account lost ∨
      BurnedByMinter t.config ⟨deps, env, info, msg⟩ account lost := by
  have hlt : (t'.balance account).val < (t.balance account).val := by omega
  cases h with
  | updateOwnership _ => exact absurd hlt (Nat.lt_irrefl _)
  | mint _ _ change _ =>
    have hcredit : (t'.balance account).val = (t.balance account).val + _ :=
      change.balances.owned account
    omega
  | burn minter _ change _ =>
    have hburn := change.balance account
    rw [if_neg (minter ▸ hminter)] at hburn
    omega
  | @burnFrom owner amount _ _ minter _ change _ =>
    have hburn := change.balance account
    by_cases ho : account = owner
    · rw [if_pos ho] at hburn
      subst ho
      exact Or.inr ⟨amount, minter, rfl, by omega⟩
    · rw [if_neg ho] at hburn
      omega
  | transfer pool _ _ change _ =>
    obtain ⟨hsender, -, -⟩ := change.loser hlt
    exact absurd (hsender ▸ pool) hpool
  | @send contract amount payload _ _ pool _ change _ =>
    obtain ⟨hsender, -, hexact⟩ := change.loser hlt
    exact Or.inl ⟨contract, amount, payload, pool, hsender.symm, rfl, by omega⟩
  | updateConfig _ _ => exact absurd hlt (Nat.lt_irrefl _)

theorem TokenEffect.apart (h : TokenEffect t info msg t' res) {a b : Addr}
    (ha : t.config.poolAddress ≠ some a) (hb : t.config.poolAddress ≠ some b)
    (hless : (t'.balance a).val < (t.balance a).val) :
    (t'.balance b).val ≤ (t.balance b).val := by
  cases h with
  | updateOwnership _ => exact Nat.le_refl _
  | mint _ _ change _ =>
    have hcredit : (t'.balance a).val = (t.balance a).val + _ := change.balances.owned a
    omega
  | burn _ _ change _ =>
    have hburn := change.balance b
    omega
  | burnFrom _ _ change _ =>
    have hburn := change.balance b
    omega
  | transfer pool _ _ change _ =>
    obtain ⟨hsender, -, -⟩ := change.loser hless
    exact absurd (hsender ▸ pool) ha
  | send pool _ change _ =>
    by_contra hmore
    have hcontract := change.gainer (Nat.lt_of_not_le hmore)
    exact hb (hcontract ▸ pool)
  | updateConfig _ _ => exact Nat.le_refl _

theorem TokenStep.safe {c : TokenCall} (h : TokenStep t c t') : TokenSafe ⟨t, c, t'⟩ := by
  obtain ⟨res, hexecute⟩ := h
  have heffect := execute_effect hexecute
  exact ⟨heffect.supply_guarded,
    fun _ hpool hminter _ hlost hless => heffect.losses hpool hminter hlost hless,
    fun _ _ ha hb hless => heffect.apart ha hb hless⟩

/-! ## Runs -/

theorem TokenStep.ledger {c : TokenCall} (h : TokenStep t c t') (ht : TokenLedger t) :
    TokenLedger t' := by
  obtain ⟨res, hexecute⟩ := h
  exact (execute_effect hexecute).ledger ht

/-- In every run from a token without balances, the balances add up to the supply, none
is stored as zero, and no step breaks `TokenSafe`. -/
theorem token_conserved_and_contained {t₀ : TokenStorage}
    {ts : List (Transition TokenStorage TokenCall)} (hstart : TokenStart t₀)
    (run : Run TokenStep t₀ ts t) : TokenLedger t ∧ ∀ x ∈ ts, TokenSafe x := by
  refine ⟨?_, ?_⟩
  · have hstep : ∀ t c t', TokenLedger t → TokenStep t c t' → TokenLedger t' :=
      fun _ _ _ ht h => h.ledger ht
    exact run.invariant hstep hstart.ledger
  · intro x hx
    exact (run.isStep x hx).safe

namespace Demo

/-- A token that knows no pool yet. -/
def unconfigured : TokenStorage where
  balances := ∅
  tokenInfo := ⟨"Prime Repo", "REPO", 6, 0⟩
  config := ⟨"minter", none⟩
  ownership := Ownership.initializeOwner "owner"

/-- A message that comes from `sender`. -/
def tokenCall (sender : Addr) (msg : ExecuteMsg) : TokenCall :=
  ⟨DemocratizedPrime.Demo.deps 10, DemocratizedPrime.Demo.env 0, ⟨sender, []⟩, msg⟩

/-- Tokens are minted before there is a pool.  Then a lender sends some to it, the pool
passes a part on to Bob, and another minter takes them away from him. -/
def migration : List TokenCall :=
  [tokenCall "minter" (.mint "lender" 100),
    tokenCall "owner" (.updateConfig none (some "pool")),
    tokenCall "lender" (.send "pool" 40 (.error "no payload")),
    tokenCall "pool" (.send "pool" 5 (.error "no payload")),
    tokenCall "pool" (.transfer "bob" 10),
    tokenCall "owner" (.updateConfig (some "successor") none),
    tokenCall "successor" (.burnFrom "bob" 10)]

/-- The supply, the pool's balance and Bob's at the end. -/
def migrationCheck (t : TokenStorage) : Bool :=
  decide (t.tokenInfo.totalSupply.val = 90) && decide ((t.balance "pool").val = 30) &&
    decide (t.balances["bob"]? = none)

/-- The transitions of a list of calls, if all of them succeed. -/
def replayToken : TokenStorage → List TokenCall →
    ContractResult (List (Transition TokenStorage TokenCall) × TokenStorage) :=
  replay (fun t c => execute c.deps t c.env c.info c.msg) fun c _ => c

theorem migration_run : ∃ ts t, Run TokenStep unconfigured ts t ∧
    ts.map (fun x => x.label) = migration ∧ migrationCheck t = true := by
  have hcheck : (match replayToken unconfigured migration with
      | .ok (_, t) => migrationCheck t
      | .error _ => false) = true := by decide +kernel
  split at hcheck
  · rename_i ts t hreplay
    have hrun : Run TokenStep unconfigured ts t ∧ ts.map (fun x => x.label) = migration :=
      replay_run (fun _ _ => rfl) (fun _ _ _ _ h => ⟨_, h⟩) hreplay
    exact ⟨ts, t, hrun.1, hrun.2, hcheck⟩
  · cases hcheck

end Demo

theorem token_conserved_and_contained_migration :
    ∃ (ts : List (Transition TokenStorage TokenCall)) (t : TokenStorage),
      ts.map (fun x => x.label) = Demo.migration ∧ Demo.migrationCheck t = true ∧
        TokenLedger t ∧ ∀ x ∈ ts, TokenSafe x := by
  obtain ⟨ts, t, run, hcalls, hcheck⟩ := Demo.migration_run
  have hstart : TokenStart Demo.unconfigured := ⟨rfl, rfl⟩
  exact ⟨ts, t, hcalls, hcheck, token_conserved_and_contained hstart run⟩

end DemocratizedPrime.RepoToken
