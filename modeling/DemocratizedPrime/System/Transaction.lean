import DemocratizedPrime.RepoToken.Ledger
import DemocratizedPrime.Pool.TokenCalls
import DemocratizedPrime.CosmWasm.Bank

/-!
# The pool and its repo token

Two contracts and the bank under one host.  A transaction is one message of an account to
one of the contracts.  The host pays the attached coins, executes the message, and then
the messages that it returned, in order and each with the messages it returns in turn.
A failure anywhere is a failure of the whole transaction, and nothing has happened.

A `Send` of repo tokens goes three calls deep: the token credits the pool and calls it,
and the pool answers with calls of the token.  The pool's queries to the token see the
storage of that moment.
-/

namespace DemocratizedPrime

open Result RepoToken

/-- The pool, its repo token, and the bank. -/
structure System where
  pool : PoolStorage
  token : TokenStorage
  bank : Bank

/-- The addresses of the two contracts. -/
structure Wiring where
  pool : Addr
  token : Addr
  distinct : pool ≠ token

/-- A message to one of the two contracts. -/
inductive TxMsg
  | pool (msg : ExecuteMsg)
  | token (msg : RepoToken.ExecuteMsg)

/-- A transaction, with the block it is in and the answers of the rest of the chain.
`exchange` is what the exchange module makes of a commitment. -/
structure Tx where
  deps : Deps
  exchange : CommitRequest → Bank → StdResult Bank
  blockTime : Timestamp
  blockHeight : Nat
  info : MessageInfo
  msg : TxMsg

/-- The block of a transaction, as a contract sees it. -/
def Tx.env (tx : Tx) (contract : Addr) : Env := ⟨tx.blockTime, tx.blockHeight, contract⟩

/-- The queries of a call, where those to the token are answered by its storage. -/
def Deps.askToken (deps : Deps) (address : Addr) (token : TokenStorage) : Deps :=
  { deps with scaledBalance := fun contract account =>
      if contract = address then
        match queryScaledBalance deps token account with
        | .ok balance => .ok balance
        | .error (.std m) => .error s!"Generic error: Querier contract error: {m}"
        | .error _ => .error "Generic error: Querier contract error"
      else deps.scaledBalance contract account }

/-- The pool's call of the token, as the token reads it. -/
def RepoTokenMsg.toExecuteMsg : RepoTokenMsg → RepoToken.ExecuteMsg
  | .mint recipient amount => .mint recipient amount
  | .burn amount => .burn amount
  | .burnFrom owner amount => .burnFrom owner amount
  | .transfer recipient amount => .transfer recipient amount

namespace System

variable (w : Wiring) (tx : Tx)

/-- Execute a message that the pool returned.  The pool only calls the token to mint, to burn and
to transfer, and the token answers none of these with a message of its own. -/
def runMessage (sys : System) : CosmosMsg → ContractResult System
  | .bankSend toAddress coins => do
    let bank ← payCoins w.pool toAddress sys.bank coins
    return { sys with bank }
  | .wasmExecute contractAddr msg => do
    ensure (contractAddr = w.token) (.std "contract: not found")
    let (token, _) ← RepoToken.execute tx.deps sys.token (tx.env w.token) ⟨w.pool, []⟩
      msg.toExecuteMsg
    return { sys with token }
  | .wasmInstantiate _ => throw (.std "can not instantiate: unauthorized")
  | .commit request => do
    let bank ← fromStd (tx.exchange request sys.bank)
    return { sys with bank }

/-- Execute a message of the pool, and the messages that it returns. -/
def callPool (sys : System) (info : MessageInfo) (msg : ExecuteMsg) : ContractResult System := do
  let (pool, response) ← execute (tx.deps.askToken w.token sys.token) sys.pool (tx.env w.pool)
    info msg
  response.messages.foldlM (runMessage w tx) { sys with pool }

/-- Execute a message of the token, and the pool's answer to a `Send`. -/
def callToken (sys : System) (info : MessageInfo) (msg : RepoToken.ExecuteMsg) :
    ContractResult System := do
  let (token, response) ← RepoToken.execute tx.deps sys.token (tx.env w.token) info msg
  match response.receive with
  | none => return { sys with token }
  | some (contract, cw20Msg) => do
    ensure (contract = w.pool) (.std "contract: not found")
    callPool w tx { sys with token } ⟨w.token, []⟩ (.receive cw20Msg)

/-- Execute a transaction.  A contract has no key to sign one with. -/
def transact (sys : System) : ContractResult System := do
  ensure (tx.info.sender ≠ w.pool ∧ tx.info.sender ≠ w.token) (.std "unauthorized")
  match tx.msg with
  | .pool msg => do
    let bank ← payCoins tx.info.sender w.pool sys.bank tx.info.funds
    callPool w tx { sys with bank } tx.info msg
  | .token msg => do
    let bank ← payCoins tx.info.sender w.token sys.bank tx.info.funds
    callToken w tx { sys with bank } tx.info msg

end System

/-- A transaction that succeeded. -/
def SystemStep (w : Wiring) (sys : System) (tx : Tx) (sys' : System) : Prop :=
  sys.transact w tx = .ok sys'

/-- The token mints for the pool and sends to it. -/
def Wired (w : Wiring) (token : TokenStorage) : Prop :=
  token.config = { minter := w.pool, poolAddress := some w.pool }

/-- How a system begins: with a new pool that is bound to the token, and a token that may
have been in use before but has no supply, and is wired to the pool. -/
structure SystemStart (w : Wiring) (sys : System) : Prop where
  deployed : ∃ t, DeployedAt t sys.pool
  bound : sys.pool.contract.repoTokenCw20Address = some w.token
  reachable : TokenReachable sys.token
  empty : sys.token.tokenInfo.totalSupply.val = 0
  wired : Wired w sys.token

end DemocratizedPrime
