import DemocratizedPrime.Lib.Paging
import DemocratizedPrime.Lib.Replay
import DemocratizedPrime.RepoToken.Ledger

/-!
# The list of holders

`queryAllAccounts` answers a page of accounts, in order, and a client lists all holders by
asking for page after page (`AccountListing`).  Tokens can change hands in between.

An account that holds tokens in every round is listed, no account is listed twice, and every
account that is listed held tokens when it was (`holders_listed_once`).  The balances of the
accounts that are listed while nothing changes add up to the supply
(`listed_balances_eq_supply`).
-/

namespace DemocratizedPrime.RepoToken

open Result ShareLedger Paging Transitions

/-! ## The query -/

/-- How many accounts a page has when no limit is given. -/
def defaultAllAccountsPageSize : Nat := 100

/-- A larger limit is clamped. -/
def maxAllAccountsPageSize : Nat := 100

/-- The number of accounts on a page. -/
def allAccountsTake (limit : Option (Uint 32)) : Nat :=
  min ((limit.map (·.val)).getD defaultAllAccountsPageSize) maxAllAccountsPageSize

/-- One page of the accounts, after `startAfter`, in the order of their addresses. -/
def queryAllAccounts (deps : Deps) (store : TokenStorage) (startAfter : Option String)
    (limit : Option (Uint 32)) : ContractResult (List Addr) := do
  let start ← validateOptional deps startAfter
  return (page store.balances start (allAccountsTake limit)).map (·.1)

/-- The accounts after one that may be given. -/
theorem queryAllAccounts_eq_ok {deps : Deps} {t : TokenStorage} {startAfter : Option String}
    {limit : Option (Uint 32)} {accounts : List Addr}
    (h : queryAllAccounts deps t startAfter limit = .ok accounts) :
    accounts = (page t.balances startAfter (allAccountsTake limit)).map (·.1) := by
  simp only [queryAllAccounts, bind_eq_ok, pure_eq_ok] at h
  obtain ⟨start, hstart, rfl⟩ := h
  cases startAfter with
  | none =>
    rw [← pure_eq_ok.mp hstart]
  | some address =>
    simp only [validateOptional, bind_eq_ok, addrValidate_eq_ok, pure_eq_ok] at hstart
    obtain ⟨_, ⟨-, rfl⟩, rfl⟩ := hstart
    rfl

theorem allAccountsTake_pos {limit : Option (Uint 32)} (h : limit ≠ some 0) :
    0 < allAccountsTake limit := by
  unfold allAccountsTake maxAllAccountsPageSize defaultAllAccountsPageSize
  cases limit with
  | none => decide
  | some n =>
    have hn : n.val ≠ 0 := fun hzero => h (congrArg some (Uint.ext hzero))
    simp only [Option.map_some, Option.getD_some]
    omega

/-! ## Listings -/

/-- A client asks for what comes after the last account that it has seen, until a page is
empty.  It finds the token in one of the states in each round. -/
inductive AccountListing (deps : Deps) :
    Option Addr → List TokenStorage → List Addr → Prop
  | done {prev : Option Addr} {t : TokenStorage} {limit : Option (Uint 32)}
      (limit_ne : limit ≠ some 0) (answer : queryAllAccounts deps t prev limit = .ok []) :
      AccountListing deps prev [t] []
  | more {prev : Option Addr} {t : TokenStorage} {limit : Option (Uint 32)}
      {accounts listed : List Addr} {last : Addr} {rest : List TokenStorage}
      (answer : queryAllAccounts deps t prev limit = .ok accounts)
      (last_eq : accounts.getLast? = some last)
      (listing : AccountListing deps (some last) rest listed) :
      AccountListing deps prev (t :: rest) (accounts ++ listed)

section

variable {deps : Deps} {prev : Option Addr} {states : List TokenStorage} {listed : List Addr}

/-- The listing reads the balances page by page. -/
theorem AccountListing.walk (h : AccountListing deps prev states listed) :
    ∃ out, Walk prev (states.map (·.balances)) out ∧ listed = out.map (·.1) := by
  induction h with
  | @done prev t limit limit_ne answer =>
    have hempty := (queryAllAccounts_eq_ok answer).symm
    exact ⟨[], .done (allAccountsTake_pos limit_ne) (List.map_eq_nil_iff.mp hempty), rfl⟩
  | @more prev t limit accounts listed last rest answer last_eq listing ih =>
    obtain ⟨out, walk, rfl⟩ := ih
    have haccounts := queryAllAccounts_eq_ok answer
    rw [haccounts, List.getLast?_map, Option.map_eq_some_iff] at last_eq
    obtain ⟨entry, hentry, rfl⟩ := last_eq
    exact ⟨_, .more hentry walk, by rw [haccounts, List.map_append]⟩

theorem balance_of_getElem? {t : TokenStorage} {account : Addr} {balance : Uint128}
    (h : t.balances[account]? = some balance) : t.balance account = balance := by
  unfold TokenStorage.balance owned
  rw [h]
  rfl

/-- Every holder of a token is stored, and every stored account holds something. -/
theorem TokenLedger.exists_entry_iff {t : TokenStorage} (h : TokenLedger t) {account : Addr} :
    (∃ balance, t.balances[account]? = some balance) ↔ t.balance account ≠ 0 := by
  constructor
  · rintro ⟨balance, hbalance⟩ hzero
    have hstored := h.noZero account balance hbalance
    rw [balance_of_getElem? hbalance] at hzero
    rw [hzero] at hstored
    exact absurd hstored (by decide)
  · intro hholds
    cases hbalance : t.balances[account]? with
    | some balance => exact ⟨balance, rfl⟩
    | none =>
      refine absurd ?_ hholds
      unfold TokenStorage.balance owned
      rw [hbalance]
      rfl

/-- Whatever happens to the tokens between two pages, the accounts are listed in order and
none twice, an account that holds tokens in every round is listed, and every account that is
listed held tokens in some round. -/
theorem holders_listed_once (h : AccountListing deps none states listed)
    (hstates : ∀ t ∈ states, TokenReachable t) :
    listed.Pairwise (fun a b => compare a b = .lt) ∧ listed.Nodup ∧
      (∀ account, (∀ t ∈ states, t.balance account ≠ 0) → account ∈ listed) ∧
      ∀ account ∈ listed, ∃ t ∈ states, t.balance account ≠ 0 := by
  obtain ⟨out, walk, rfl⟩ := h.walk
  obtain ⟨hordered, -⟩ := walk.ordered
  refine ⟨List.Pairwise.map _ (fun _ _ hab => hab) hordered, hordered.nodup_keys, ?_, ?_⟩
  · intro account hholds
    obtain ⟨balance, hlisted⟩ := walk.complete (k := account) rfl fun m hm => by
      obtain ⟨t, ht, rfl⟩ := List.mem_map.mp hm
      exact (hstates t ht).ledger.exists_entry_iff.mpr (hholds t ht)
    exact List.mem_map_of_mem hlisted
  · intro account haccount
    obtain ⟨entry, hentry, rfl⟩ := List.mem_map.mp haccount
    obtain ⟨m, hm, hfound⟩ := walk.sound hentry
    obtain ⟨t, ht, rfl⟩ := List.mem_map.mp hm
    exact ⟨t, ht, (hstates t ht).ledger.exists_entry_iff.mp ⟨_, hfound⟩⟩

/-- The balances of the accounts that are listed while nothing changes add up to the
supply. -/
theorem listed_balances_eq_supply {t : TokenStorage} (h : AccountListing deps none states listed)
    (hstates : ∀ s ∈ states, s = t) (ht : TokenReachable t) :
    (listed.map fun account => (t.balance account).val).sum = t.tokenInfo.totalSupply.val := by
  obtain ⟨out, walk, rfl⟩ := h.walk
  have hout : out = t.balances.toList := walk.eq_toList fun m hm => by
    obtain ⟨s, hs, rfl⟩ := List.mem_map.mp hm
    rw [hstates s hs]
  rw [ht.ledger.supply, hout, List.map_map]
  refine congrArg List.sum (List.map_congr_left fun entry hentry => ?_)
  rw [Std.ExtTreeMap.mem_toList_iff_getElem?_eq_some] at hentry
  exact congrArg Uint.val (balance_of_getElem? hentry)

end

/-! ## A client -/

/-- The listing that a client makes with one limit, one round in each of the states. -/
def listAccounts (deps : Deps) (limit : Option (Uint 32)) :
    (prev : Option Addr) → List TokenStorage → Option (List Addr)
  | _, [] => none
  | prev, t :: rest =>
    match queryAllAccounts deps t prev limit with
    | .error _ => none
    | .ok accounts =>
      match accounts.getLast? with
      | none => if rest.isEmpty then some [] else none
      | some last => (listAccounts deps limit (some last) rest).map (accounts ++ ·)

theorem listAccounts_listing {deps : Deps} {limit : Option (Uint 32)} {prev : Option Addr}
    {states : List TokenStorage} {listed : List Addr} (hlimit : limit ≠ some 0)
    (h : listAccounts deps limit prev states = some listed) :
    AccountListing deps prev states listed := by
  induction states generalizing prev listed with
  | nil => cases h
  | cons t rest ih =>
    unfold listAccounts at h
    split at h
    · cases h
    · rename_i accounts answer
      split at h
      · rename_i hlast
        rw [List.getLast?_eq_none_iff] at hlast
        subst hlast
        split at h
        · rename_i hrest
          rw [List.isEmpty_iff.mp hrest, ← Option.some.inj h]
          exact .done hlimit answer
        · cases h
      · rename_i last hlast
        rw [Option.map_eq_some_iff] at h
        obtain ⟨later, hlater, rfl⟩ := h
        exact .more answer hlast (ih hlater)

theorem TokenReachable.posts {t₀ t : TokenStorage} {ts : List (Transition TokenStorage TokenCall)}
    (h : TokenReachable t₀) (run : Run TokenStep t₀ ts t) :
    ∀ x ∈ ts, TokenReachable x.post := by
  have hstep : ∀ s c s', TokenReachable s → TokenStep s c s' → TokenReachable s' := by
    rintro s c s' ⟨deps, msg, s₀, res, before, hinst, hrun⟩ hstep
    exact ⟨deps, msg, s₀, res, _, hinst, hrun.snoc hstep⟩
  intro x hx
  exact hstep _ _ _ (run.invariant_pre hstep h x hx) (run.isStep x hx)

namespace Demo

/-- Addresses are always valid.  The token asks nothing else here. -/
def tokenDeps : Deps where
  addrError _ := none
  oraclePrice _ _ := .ok none
  attributeNames _ _ := .ok []
  scan _ _ _ := .ok ⟨[], none⟩
  balance _ _ := .ok 0
  scaledBalance _ _ := .ok 0

/-- A message of the minter. -/
def minterCall (msg : ExecuteMsg) : TokenCall :=
  ⟨tokenDeps, ⟨⟨0⟩, 1, "token"⟩, ⟨"minter", []⟩, msg⟩

/-- A token without a pool. -/
def tokenMsg : InstantiateMsg := ⟨"Prime Repo", "REPO", 6, "owner", "minter", none⟩

/-- Three accounts get tokens, then one of them loses its tokens, and a fourth gets some. -/
def shuffle : List TokenCall :=
  [minterCall (.mint "alice" 5), minterCall (.mint "bob" 7), minterCall (.mint "carol" 9),
    minterCall (.burnFrom "bob" 7), minterCall (.mint "zoe" 1)]

/-- The states after the third, the fourth and the last call, and that one once more. -/
def listedStates : List (Transition TokenStorage TokenCall) → List TokenStorage
  | [_, _, a, b, c] => [a.post, b.post, c.post, c.post]
  | _ => []

/-- The token after its creation, the transitions of the shuffle, and the token after them. -/
def replayShuffle : ContractResult (TokenStorage × List (Transition TokenStorage TokenCall) ×
    TokenStorage) := do
  let (t₀, _) ← instantiate tokenDeps tokenMsg
  let (ts, t) ← replay (fun t c => execute c.deps t c.env c.info c.msg) (fun c _ => c) t₀ shuffle
  return (t₀, ts, t)

/-- Page by page, one account each, and all at once at the end. -/
def shuffleCheck : Bool :=
  match replayShuffle with
  | .ok (_, ts, t) =>
    decide (listAccounts tokenDeps (some 1) none (listedStates ts) =
      some ["alice", "carol", "zoe"]) &&
    decide (listAccounts tokenDeps none none [t, t] = some ["alice", "carol", "zoe"])
  | .error _ => false

theorem mem_listedStates {ts : List (Transition TokenStorage TokenCall)} {t : TokenStorage}
    (h : t ∈ listedStates ts) : ∃ x ∈ ts, x.post = t := by
  unfold listedStates at h
  split at h
  · simp only [List.mem_cons, List.not_mem_nil, or_false] at h
    rcases h with rfl | rfl | rfl | rfl
    · exact ⟨_, by simp, rfl⟩
    · exact ⟨_, by simp, rfl⟩
    · exact ⟨_, by simp, rfl⟩
    · exact ⟨_, by simp, rfl⟩
  · cases h

theorem shuffle_listed : ∃ states t, (∀ s ∈ states, TokenReachable s) ∧ TokenReachable t ∧
    AccountListing tokenDeps none states ["alice", "carol", "zoe"] ∧
    AccountListing tokenDeps none [t, t] ["alice", "carol", "zoe"] := by
  have hcheck : shuffleCheck = true := by decide +kernel
  unfold shuffleCheck at hcheck
  split at hcheck
  · rename_i hreplay
    simp only [replayShuffle, bind_eq_ok, Prod.exists, pure_eq_ok, Prod.mk.injEq] at hreplay
    obtain ⟨t₀, res, hinst, ts, t, hcalls, rfl, rfl, rfl⟩ := hreplay
    have hrun : Run TokenStep t₀ ts t ∧ ts.map (fun x => x.label) = shuffle :=
      replay_run (fun _ _ => rfl) (fun _ _ _ _ h => ⟨_, h⟩) hcalls
    have hstart : TokenReachable t₀ := ⟨_, _, _, _, [], hinst, .nil⟩
    rw [Bool.and_eq_true, decide_eq_true_eq, decide_eq_true_eq] at hcheck
    refine ⟨listedStates ts, t, fun s hs => ?_, ⟨_, _, _, _, ts, hinst, hrun.1⟩,
      listAccounts_listing (by decide) hcheck.1, listAccounts_listing (by decide) hcheck.2⟩
    obtain ⟨x, hx, rfl⟩ := mem_listedStates hs
    exact hstart.posts hrun.1 x hx
  · cases hcheck

end Demo

/-- Bob loses his tokens before his page, and Zoe gets hers in time. -/
theorem holders_listed_once_shuffle :
    ∃ states : List TokenStorage,
      AccountListing Demo.tokenDeps none states ["alice", "carol", "zoe"] ∧
      ["alice", "carol", "zoe"].Nodup ∧ ∃ t ∈ states, t.balance "zoe" ≠ 0 := by
  obtain ⟨states, t, hstates, -, hlisting, -⟩ := Demo.shuffle_listed
  obtain ⟨-, hnodup, -, hheld⟩ := holders_listed_once hlisting hstates
  exact ⟨states, hlisting, hnodup, hheld "zoe" (by simp)⟩

theorem listed_balances_eq_supply_shuffle :
    ∃ t : TokenStorage, (["alice", "carol", "zoe"].map fun account => (t.balance account).val).sum =
      t.tokenInfo.totalSupply.val := by
  obtain ⟨-, t, -, ht, -, hlisting⟩ := Demo.shuffle_listed
  exact ⟨t, listed_balances_eq_supply hlisting (by simp) ht⟩

end DemocratizedPrime.RepoToken
