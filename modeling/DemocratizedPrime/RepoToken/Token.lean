import DemocratizedPrime.Pool.Contract
import DemocratizedPrime.Lib.ShareLedger

/-!
# The repo token

The CW20 contract whose balances are the lenders' claims, in scaled units.  It differs
from an ordinary CW20 in who may move tokens: only the minter mints and burns, holders
can only `Send` to the pool, which answers in its `Receive` handler, and only the pool
may `Transfer`, to anyone but itself.

The body of a `Send` is opaque to the token.  It is kept as the pool will read it.
-/

namespace DemocratizedPrime.RepoToken

open Result TreeMap

/-! ## Storage -/

/-- The metadata, and how many scaled units exist. -/
structure TokenInfo where
  name : String
  symbol : String
  decimals : Nat
  totalSupply : Uint128
deriving DecidableEq

/-- Who may mint and burn, and the pool that backs the token. -/
structure Config where
  minter : Addr
  poolAddress : Option Addr
deriving DecidableEq

/-- What the token stores. -/
structure TokenStorage where
  balances : ShareLedger.Book Addr 128
  tokenInfo : TokenInfo
  config : Config
  ownership : Ownership

/-- The balance of an account, which is zero without an entry. -/
def TokenStorage.balance (store : TokenStorage) (account : Addr) : Uint128 :=
  ShareLedger.owned store.balances account

/-- Save another supply, and leave the metadata. -/
def TokenStorage.setTotalSupply (store : TokenStorage) (totalSupply : Uint128) : TokenStorage :=
  { store with tokenInfo := { store.tokenInfo with totalSupply } }

/-! ## Messages -/

/-- What a token is created from. -/
structure InstantiateMsg where
  name : String
  symbol : String
  decimals : Nat
  owner : String
  minter : String
  poolAddress : Option String

/-- The messages of the token. -/
inductive ExecuteMsg
  | updateOwnership (action : OwnershipAction)
  | mint (recipient : String) (amount : Uint128)
  | burn (amount : Uint128)
  | burnFrom (owner : String) (amount : Uint128)
  | transfer (recipient : String) (amount : Uint128)
  | send (contract : String) (amount : Uint128) (msg : Except String Cw20ReceivePayload)
  | updateConfig (minter poolAddress : Option String)

/-- A response: the `Receive` that a `Send` calls its target with, and attributes. -/
structure TokenResponse where
  receive : Option (String × Cw20ReceiveMsg)
  attributes : List (String × String)

/-! ## Instantiate -/

/-- An address that may be left out. -/
def validateOptional (deps : Deps) : Option String → ContractResult (Option Addr)
  | none => return none
  | some address => do
    let addr ← deps.addrValidate address
    return some addr

/-- A new token has an owner, a minter and perhaps a pool, and no balances. -/
def instantiate (deps : Deps) (msg : InstantiateMsg) :
    ContractResult (TokenStorage × TokenResponse) := do
  match validateRepoTokenMeta msg.name msg.symbol msg.decimals with
  | .error m => throw (illegalArgument m)
  | .ok () =>
    let owner ← deps.addrValidate msg.owner
    let minter ← deps.addrValidate msg.minter
    let poolAddress ← validateOptional deps msg.poolAddress
    return ({
      balances := ∅
      tokenInfo := ⟨msg.name, msg.symbol, msg.decimals, 0⟩
      config := { minter, poolAddress }
      ownership := Ownership.initializeOwner owner }, ⟨none, [("action", "instantiate")]⟩)

/-! ## Balances -/

/-- Take an amount out of an account.  `insufficient` words the complaint from the
current balance. -/
def TokenStorage.deduct (store : TokenStorage) (account : Addr) (amount : Uint128)
    (insufficient : Uint128 → String) : ContractResult TokenStorage := do
  let current := store.balance account
  ensure (amount.val ≤ current.val) (illegalArgument (insufficient current))
  let updated ← okOr (current.checkedSub amount) (.overflowError .sub)
  return { store with balances := putUnless Uint.isZero store.balances account updated }

/-- Put tokens on an account. -/
def TokenStorage.add (store : TokenStorage) (account : Addr) (amount : Uint128) :
    ContractResult TokenStorage := do
  let updated ← okOr ((store.balance account).checkedAdd amount) (.overflowError .add)
  return { store with balances := store.balances.insert account updated }

/-- Take an amount out of an account and out of the supply. -/
def applyBurn (store : TokenStorage) (owner : Addr) (amount : Uint128)
    (insufficientBalanceMsg : String) : ContractResult TokenStorage := do
  let store ← store.deduct owner amount fun _ => insufficientBalanceMsg
  let totalSupply ← okOr (store.tokenInfo.totalSupply.checkedSub amount) (.overflowError .sub)
  return store.setTotalSupply totalSupply

/-! ## Who may do what -/

/-- Only the minter passes. -/
def onlyMinter (config : Config) (sender : Addr) : ContractResult Unit :=
  ensure (sender = config.minter) (.notAuthorizedError "only minter may mint or burn")

/-- Tokens are sent to the pool only. -/
def ensureSendAllowed (config : Config) (recipient : Addr) : ContractResult Unit := do
  let pool ← okOr config.poolAddress .poolNotConfigured
  ensure (recipient = pool) (illegalArgument
    "Send is only allowed to the pool address; use Send (not Transfer) so Receive runs")

/-- Only the pool transfers tokens, and not to itself. -/
def ensureTransferAllowed (config : Config) (sender recipient : Addr) : ContractResult Unit := do
  let pool ← okOr config.poolAddress .poolNotConfigured
  ensure (sender = pool) (illegalArgument "Only the pool may Transfer repo tokens")
  ensure (recipient ≠ pool) (illegalArgument
    "Transfer to the pool address is not allowed; use Send so the pool's Receive handler runs")

/-! ## Execute -/

/-- Offer, take over or give up the ownership. -/
def updateOwnership (deps : Deps) (store : TokenStorage) (env : Env) (info : MessageInfo)
    (action : OwnershipAction) : ContractResult (TokenStorage × TokenResponse) := do
  let ownership ← store.ownership.update deps env info action
  return ({ store with ownership }, ⟨none, [
    ("action", "update_ownership"),
    ("owner", optionText ownership.owner),
    ("pending_owner", optionText ownership.pendingOwner),
    ("pending_expiry", optionText (ownership.pendingExpiry.map Expiration.toText))]⟩)

/-- The minter makes new tokens. -/
def executeMint (deps : Deps) (store : TokenStorage) (info : MessageInfo) (recipient : String)
    (amount : Uint128) : ContractResult (TokenStorage × TokenResponse) := do
  onlyMinter store.config info.sender
  let recipient ← deps.addrValidate recipient
  ensure (amount.val ≠ 0) (illegalArgument "zero mint")
  let store ← store.add recipient amount
  let totalSupply ← okOr (store.tokenInfo.totalSupply.checkedAdd amount) (.overflowError .add)
  return (store.setTotalSupply totalSupply, ⟨none, [
    ("action", "mint"), ("recipient", recipient), ("amount", toString amount)]⟩)

/-- The minter burns its own tokens. -/
def executeBurn (store : TokenStorage) (info : MessageInfo) (amount : Uint128) :
    ContractResult (TokenStorage × TokenResponse) := do
  onlyMinter store.config info.sender
  ensure (amount.val ≠ 0) (illegalArgument "zero burn")
  let store ← applyBurn store info.sender amount "insufficient balance to burn"
  return (store, ⟨none, [("action", "burn"), ("amount", toString amount)]⟩)

/-- The minter burns tokens of an account, without an allowance. -/
def executeBurnFrom (deps : Deps) (store : TokenStorage) (info : MessageInfo) (owner : String)
    (amount : Uint128) : ContractResult (TokenStorage × TokenResponse) := do
  onlyMinter store.config info.sender
  ensure (amount.val ≠ 0) (illegalArgument "zero burn from")
  let ownerAddr ← deps.addrValidate owner
  let store ← applyBurn store ownerAddr amount "insufficient balance to burn from"
  return (store, ⟨none, [
    ("action", "burn_from"), ("by", info.sender), ("owner", owner), ("amount", toString amount)]⟩)

/-- The pool passes tokens on to an account. -/
def executeTransfer (deps : Deps) (store : TokenStorage) (info : MessageInfo)
    (recipient : String) (amount : Uint128) : ContractResult (TokenStorage × TokenResponse) := do
  ensure (amount.val ≠ 0) (illegalArgument "zero transfer")
  let recipient ← deps.addrValidate recipient
  ensureTransferAllowed store.config info.sender recipient
  let store ← store.deduct info.sender amount fun current =>
    s!"insufficient balance [{current}] to transfer [{amount}]"
  let store ← store.add recipient amount
  return (store, ⟨none, [
    ("action", "transfer"), ("from", info.sender), ("to", recipient), ("amount", toString amount)]⟩)

/-- A holder sends tokens to the pool, which is then told by `Receive`. -/
def executeSend (deps : Deps) (store : TokenStorage) (info : MessageInfo) (contract : String)
    (amount : Uint128) (msg : Except String Cw20ReceivePayload) :
    ContractResult (TokenStorage × TokenResponse) := do
  ensure (amount.val ≠ 0) (illegalArgument "zero send")
  let contractAddr ← deps.addrValidate contract
  ensureSendAllowed store.config contractAddr
  let store ← store.deduct info.sender amount fun _ => "insufficient balance to send"
  let store ← store.add contractAddr amount
  return (store, ⟨some (contract, ⟨info.sender, amount, msg⟩), [
    ("action", "send"), ("from", info.sender), ("to", contractAddr), ("amount", toString amount)]⟩)

/-- The owner names another minter or another pool. -/
def executeUpdateConfig (deps : Deps) (store : TokenStorage) (info : MessageInfo)
    (minter poolAddress : Option String) : ContractResult (TokenStorage × TokenResponse) := do
  store.ownership.assertOwner info.sender "Only the contract owner may update token configuration"
  let newMinter ← validateOptional deps minter
  let newPoolAddress ← validateOptional deps poolAddress
  let config : Config := {
    minter := newMinter.getD store.config.minter
    poolAddress := newPoolAddress.or store.config.poolAddress }
  return ({ store with config }, ⟨none, [
    ("action", "update_config"), ("minter", config.minter)]⟩)

/-- The entry point: each message goes to its handler. -/
def execute (deps : Deps) (store : TokenStorage) (env : Env) (info : MessageInfo) :
    ExecuteMsg → ContractResult (TokenStorage × TokenResponse)
  | .updateOwnership action => updateOwnership deps store env info action
  | .mint recipient amount => executeMint deps store info recipient amount
  | .burn amount => executeBurn store info amount
  | .burnFrom owner amount => executeBurnFrom deps store info owner amount
  | .transfer recipient amount => executeTransfer deps store info recipient amount
  | .send contract amount msg => executeSend deps store info contract amount msg
  | .updateConfig minter poolAddress => executeUpdateConfig deps store info minter poolAddress

/-! ## Queries -/

/-- The stored balance, which the pool asks for when the owner withdraws for a lender. -/
def queryScaledBalance (deps : Deps) (store : TokenStorage) (address : String) :
    ContractResult Uint128 := do
  let addr ← deps.addrValidate address
  return store.balance addr

end DemocratizedPrime.RepoToken
