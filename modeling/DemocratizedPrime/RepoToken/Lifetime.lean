import DemocratizedPrime.Common.Lifetime
import DemocratizedPrime.Pool.Migrate
import DemocratizedPrime.RepoToken.Containment

/-!
# The lifetime of a token

The token has lost only its administrator since its first releases, and `migrate` is the
migration that all contracts share.  So a token keeps its balances through all releases, and
shows nothing but its messages.

A token that older code left behind, with a sound ledger, keeps a sound ledger
(`migrated_token_keeps_ledger`).
-/

namespace DemocratizedPrime.RepoToken

open Result ShareLedger Transitions

/-- `CONTRACT_NAME`. -/
def contractName : String := "repo-token-cw20"

/-- What is stored of a token: its configuration, and the balances with the supply. -/
abbrev StoredToken : Type := PlainStore Config (Book Addr 128 × TokenInfo)

/-- The token of what is stored. -/
def assemble (config : Config) (books : Book Addr 128 × TokenInfo) (ownership : Ownership) :
    TokenStorage where
  balances := books.1
  tokenInfo := books.2
  config
  ownership

/-- The token that the running code reads. -/
def StoredToken.load (store : StoredToken) : ContractResult TokenStorage :=
  PlainStore.load assemble store

/-- How this code stores a token. -/
def TokenStorage.save (token : TokenStorage) (version : ContractVersion) : StoredToken where
  version
  state := ⟨none, token.config⟩
  ownership := some token.ownership
  rest := (token.balances, token.tokenInfo)

theorem TokenStorage.load_save (token : TokenStorage) (version : ContractVersion) :
    StoredToken.load (token.save version) = .ok token :=
  rfl

/-- `migrate`: the version check, and the move of a legacy owner. -/
def migrate (V : Type) [LinearOrder V] [SemVer V] (deps : Deps) (contractVersion : String)
    (store : StoredToken) : MigrateResult (StoredToken × List (String × String)) :=
  migratePlain V contractName deps contractVersion store

/-- The token and its releases. -/
def tokenReleases (V : Type) [LinearOrder V] [SemVer V] :
    Releasable StoredToken TokenStorage TokenCall Unit :=
  plainReleases V contractName assemble TokenStep

section

variable {V : Type} [LinearOrder V] [SemVer V] {deps : Deps} {contractVersion : String}
  {old store store' : StoredToken} {attributes : List (String × String)}
  {ts : List (Transition StoredToken (LifeEvent TokenCall Unit))}

/-- The migration of a token that older code left behind keeps its balances, its supply and its
configuration, and what follows, releases included, is what its messages do.  A ledger that was
sound stays so. -/
theorem migrated_token_keeps_ledger
    (h : migrate V deps contractVersion old = .ok (store, attributes))
    (run : Run (LifeStep (tokenReleases V)) store ts store') :
    (∃ ownership us t, Recovered deps old.state.admin old.ownership ownership ∧
      StoredToken.load store = .ok (assemble old.state.state old.rest ownership) ∧
      Run TokenStep (assemble old.state.state old.rest ownership) us t ∧
      StoredToken.load store' = .ok t ∧ us.map (·.label) = messages ts ∧
      (∀ x ∈ us, TokenSafe x) ∧
      (old.rest.2.totalSupply.val = outstanding old.rest.1 → NoZero old.rest.1 →
        TokenLedger t)) ∧
    Rising V (old.version.version :: contractVersion :: releases ts) := by
  obtain ⟨⟨ownership, us, t, howner, hload, hrun, hload', hlabels⟩, hrising⟩ :=
    migratePlain_lifetime h run
  refine ⟨⟨ownership, us, t, howner, hload, hrun, hload', hlabels, fun x hx => ?_,
    fun hsupply hzero => ?_⟩, hrising⟩
  · exact (hrun.isStep x hx).safe
  · exact hrun.invariant (fun _ _ _ ht h => TokenStep.ledger h ht) ⟨hsupply, hzero⟩

end

namespace Demo

/-- The token as code that knew an administrator would have left it. -/
def leftBehind (token : TokenStorage) : StoredToken :=
  { token.save ⟨contractName, "0.9.0"⟩ with
    state := ⟨some "founder", token.config⟩
    ownership := none }

/-- What the minter does after the migration. -/
def mintAgain : TokenCall := tokenCall "successor" (.mint "bob" 5)

/-- The minter of the old state mints on the migrated token. -/
def leftBehindCheck : Bool :=
  match replayToken unconfigured migration with
  | .error _ => false
  | .ok (_, token) =>
    match migrate DemocratizedPrime.Demo.Version mintAgain.deps "1.0.0" (leftBehind token) with
    | .error _ => false
    | .ok (store, _) =>
      match StoredToken.load store with
      | .error _ => false
      | .ok token =>
        (execute mintAgain.deps token mintAgain.env mintAgain.info mintAgain.msg).isOk

end Demo

theorem migrated_token_keeps_ledger_founder :
    ∃ (old store₀ store : StoredToken)
      (ts : List (Transition StoredToken (LifeEvent TokenCall Unit))) (token : TokenStorage),
      Run (LifeStep (tokenReleases DemocratizedPrime.Demo.Version)) store₀ ts store ∧
      old.state.admin = some "founder" ∧ old.ownership = none ∧
      StoredToken.load store₀ =
        .ok (assemble old.state.state old.rest (Ownership.initializeOwner "founder")) ∧
      messages ts = [Demo.mintAgain] ∧ StoredToken.load store = .ok token ∧ TokenLedger token := by
  have hcheck : Demo.leftBehindCheck = true := by decide +kernel
  unfold Demo.leftBehindCheck at hcheck
  split at hcheck
  · cases hcheck
  · rename_i us token hreplay
    have hrun : Run TokenStep Demo.unconfigured us token ∧ us.map (·.label) = Demo.migration :=
      replay_run (fun _ _ => rfl) (fun _ _ _ _ h => ⟨_, h⟩) hreplay
    have hstart : TokenStart Demo.unconfigured := ⟨rfl, rfl⟩
    have hledger : TokenLedger token :=
      hrun.1.invariant (fun _ _ _ ht h => TokenStep.ledger h ht) hstart.ledger
    split at hcheck
    · cases hcheck
    · rename_i store₀ attributes hmigrate
      split at hcheck
      · cases hcheck
      · rename_i token₁ hload
        obtain ⟨⟨token₂, response⟩, hmint⟩ := isOk_iff.mp hcheck
        have hlife := Run.single (LifeStep.message
          (c := tokenReleases DemocratizedPrime.Demo.Version) (e := Demo.mintAgain) hload
          ⟨response, hmint⟩ (token₂.load_save store₀.version) rfl)
        obtain ⟨⟨ownership, us, token', howner, hload₀, -, hstore, -, -, htoken⟩, -⟩ :=
          migrated_token_keeps_ledger hmigrate hlife
        cases howner
        exact ⟨Demo.leftBehind token, store₀, _, _, token', hlife, rfl, rfl, hload₀, rfl, hstore,
          htoken hledger.supply hledger.noZero⟩

end DemocratizedPrime.RepoToken
