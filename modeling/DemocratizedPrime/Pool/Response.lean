import DemocratizedPrime.Pool.Storage

/-!
# Responses

A successful call returns the messages that the host executes next, in order,
and attributes for observers.  The messages are typed: coins sent by the bank, a
call of the repo token, or a commitment of an account's funds to an exchange
market.  An attribute with a JSON payload keeps the value that is serialized.
-/

namespace DemocratizedPrime

open Result

/-- The calls of the repo token that the pool makes. -/
inductive RepoTokenMsg
  | mint (recipient : Addr) (amount : Uint128)
  | burn (amount : Uint128)
  | burnFrom (owner : Addr) (amount : Uint128)
  | transfer (recipient : String) (amount : Uint128)
deriving DecidableEq

/-- `MsgCommitFundsRequest`, wrapped in an `MsgExec` by the contract. -/
structure CommitRequest where
  grantee : Addr
  account : Addr
  marketId : Nat
  amount : List Coin
  eventTag : String
deriving DecidableEq

/-- `WasmMsg::Instantiate` of a new repo token, answered through `reply`. -/
structure InstantiateRequest where
  admin : Addr
  codeId : Nat
  name : String
  symbol : String
  decimals : Nat
  owner : Addr
  minter : Addr
  poolAddress : Option Addr
  label : String
deriving DecidableEq

/-- The messages that the pool sends. -/
inductive CosmosMsg
  | bankSend (toAddress : Addr) (amount : List Coin)
  | wasmExecute (contractAddr : Addr) (msg : RepoTokenMsg)
  | wasmInstantiate (request : InstantiateRequest)
  | commit (request : CommitRequest)
deriving DecidableEq

/-- A signed 128-bit amount. -/
structure Int128 where
  val : Int
  isBounded : -2 ^ 127 ≤ val ∧ val < 2 ^ 127

/-- The value of an attribute: a text, or what its JSON text is made from. -/
inductive AttributeValue
  | text (value : String)
  | amounts (value : List (String × Uint128))
  | signedAmounts (value : Std.ExtTreeMap String Int128)
  | names (value : List String)
  | rateParams (value : RateParamsV1)
  | contractState (value : ContractStateV1)

/-- The messages and the attributes of a response. -/
structure Response where
  messages : List CosmosMsg
  attributes : List (String × AttributeValue)

namespace Response

/-- A response with nothing in it. -/
def new : Response := ⟨[], []⟩

/-- Add a message at the end. -/
def addMessage (r : Response) (m : CosmosMsg) : Response :=
  { r with messages := r.messages ++ [m] }

/-- Add an attribute at the end. -/
def addAttribute (r : Response) (key : String) (value : AttributeValue) : Response :=
  { r with attributes := r.attributes ++ [(key, value)] }

/-- An attribute with a plain text. -/
def addText (r : Response) (key value : String) : Response := r.addAttribute key (.text value)

@[simp] theorem messages_new : new.messages = [] := rfl
@[simp] theorem messages_addMessage (r : Response) (m : CosmosMsg) :
    (r.addMessage m).messages = r.messages ++ [m] := rfl
@[simp] theorem messages_addAttribute (r : Response) (k : String) (v : AttributeValue) :
    (r.addAttribute k v).messages = r.messages := rfl
@[simp] theorem messages_addText (r : Response) (k v : String) :
    (r.addText k v).messages = r.messages := rfl

end Response

/-- `EVENT_TAG_PREFIX`. -/
def eventTagPrefix : String := "demo-prime"

/-- Tags have the form `PREFIX:action:account`. -/
def newEventTag (action : String) (account : Addr) : String :=
  s!"{eventTagPrefix}:{action}:{account}"

/-- The commitment of `funds` that `account` has just received. -/
def newCommitMessage (contract : ContractStateV1) (contractAddress : Addr) (action : String)
    (account : Addr) (funds : List Coin) : ContractResult CosmosMsg := do
  let marketId ← okOr contract.commitMarketId
    (illegalArgument "commit_market_id is not configured on the contract")
  return .commit ⟨contractAddress, account, marketId, funds, newEventTag action account⟩

/-- Add the commitment of `funds` to a response when `commitFunds` asks for it. -/
def addCommitMessage (res : Response) (commitFunds : Bool) (contract : ContractStateV1)
    (contractAddress : Addr) (action : String) (account : Addr) (funds : List Coin) :
    ContractResult Response :=
  if commitFunds then do
    let commit ← newCommitMessage contract contractAddress action account funds
    return res.addMessage commit
  else return res

/-- The commitment that `addCommitMessage` adds, if any. -/
def commitMessages (commitFunds : Bool) (contract : ContractStateV1) (contractAddress : Addr)
    (action : String) (account : Addr) (funds : List Coin) : List CosmosMsg :=
  match commitFunds, contract.commitMarketId with
  | true, some marketId =>
    [.commit ⟨contractAddress, account, marketId, funds, newEventTag action account⟩]
  | _, _ => []

theorem addCommitMessage_messages {res res' : Response} {cf : Bool} {c : ContractStateV1}
    {pool account : Addr} {action : String} {funds : List Coin}
    (h : addCommitMessage res cf c pool action account funds = .ok res') :
    res'.messages = res.messages ++ commitMessages cf c pool action account funds := by
  unfold addCommitMessage at h
  unfold commitMessages
  cases cf with
  | false =>
    rw [← pure_eq_ok.mp h]
    simp
  | true =>
    simp only [if_true, newCommitMessage, bind_eq_ok, okOr_eq_ok, pure_eq_ok] at h
    obtain ⟨m, ⟨marketId, hid, rfl⟩, rfl⟩ := h
    rw [hid]
    rfl

/-! ## The messages by kind -/

/-- The coins that a message moves, and to whom. -/
def CosmosMsg.bankSend? : CosmosMsg → Option (Addr × List Coin)
  | .bankSend toAddress amount => some (toAddress, amount)
  | _ => none

/-- The contract that a message calls, and with what. -/
def CosmosMsg.tokenCall? : CosmosMsg → Option (Addr × RepoTokenMsg)
  | .wasmExecute contractAddr msg => some (contractAddr, msg)
  | _ => none

@[simp] theorem CosmosMsg.bankSend?_bankSend (a : Addr) (coins : List Coin) :
    (CosmosMsg.bankSend a coins).bankSend? = some (a, coins) := rfl
@[simp] theorem CosmosMsg.bankSend?_wasmExecute (a : Addr) (m : RepoTokenMsg) :
    (CosmosMsg.wasmExecute a m).bankSend? = none := rfl
@[simp] theorem CosmosMsg.tokenCall?_bankSend (a : Addr) (coins : List Coin) :
    (CosmosMsg.bankSend a coins).tokenCall? = none := rfl
@[simp] theorem CosmosMsg.tokenCall?_wasmExecute (a : Addr) (m : RepoTokenMsg) :
    (CosmosMsg.wasmExecute a m).tokenCall? = some (a, m) := rfl

/-- The coins that the bank sends, in order. -/
def Response.bankSends (r : Response) : List (Addr × List Coin) :=
  r.messages.filterMap CosmosMsg.bankSend?

/-- All coins that a response sends. -/
def Response.sentCoins (r : Response) : List Coin := r.bankSends.flatMap (·.2)

/-- The calls of other contracts, in order. -/
def Response.tokenCalls (r : Response) : List (Addr × RepoTokenMsg) :=
  r.messages.filterMap CosmosMsg.tokenCall?

/-- A commitment neither sends coins nor calls the repo token. -/
theorem mem_commitMessages {cf : Bool} {c : ContractStateV1} {pool account : Addr}
    {action : String} {funds : List Coin} {m : CosmosMsg}
    (h : m ∈ commitMessages cf c pool action account funds) : ∃ request, m = .commit request := by
  unfold commitMessages at h
  split at h
  · rw [List.mem_singleton] at h
    exact ⟨_, h⟩
  · cases h

@[simp] theorem commitMessages_bankSends (cf : Bool) (c : ContractStateV1) (pool account : Addr)
    (action : String) (funds : List Coin) :
    (commitMessages cf c pool action account funds).filterMap CosmosMsg.bankSend? = [] := by
  rw [List.filterMap_eq_nil_iff]
  intro m hm
  obtain ⟨request, rfl⟩ := mem_commitMessages hm
  rfl

@[simp] theorem commitMessages_tokenCalls (cf : Bool) (c : ContractStateV1) (pool account : Addr)
    (action : String) (funds : List Coin) :
    (commitMessages cf c pool action account funds).filterMap CosmosMsg.tokenCall? = [] := by
  rw [List.filterMap_eq_nil_iff]
  intro m hm
  obtain ⟨request, rfl⟩ := mem_commitMessages hm
  rfl

end DemocratizedPrime
