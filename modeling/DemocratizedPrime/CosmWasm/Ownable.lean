import DemocratizedPrime.CosmWasm.Host

/-!
# Ownership

`cw_ownable`'s two-step transfer, with the wrapper of the shared library around
it: the wrapper takes no funds, refuses to renounce, and words a failed owner
check in the caller's terms.
-/

namespace DemocratizedPrime

open Result

/-- When a pending transfer ends, `cw_utils::Expiration`. -/
inductive Expiration
  | atHeight (height : Nat)
  | atTime (time : Timestamp)
  | never
deriving DecidableEq

/-- Whether an expiry has come, by the block that runs. -/
def Expiration.isExpired (e : Expiration) (env : Env) : Bool :=
  match e with
  | .atHeight height => decide (height ≤ env.blockHeight)
  | .atTime time => decide (time.nanos.val ≤ env.blockTime.nanos.val)
  | .never => false

/-- `None` is shown as a text, as the ownership attributes do. -/
def optionText (value : Option String) : String := value.getD "none"

/-- `Display` of a point in time: the seconds, and nine digits of nanoseconds. -/
def Timestamp.toText (t : Timestamp) : String :=
  let digits := (toString (t.nanos.val % 1000000000)).toList
  let padded := List.replicate (9 - digits.length) '0' ++ digits
  toString t.seconds ++ "." ++ String.ofList padded

/-- `Display`. -/
def Expiration.toText : Expiration → String
  | .atHeight height => s!"expiration height: {height}"
  | .atTime time => s!"expiration time: {time.toText}"
  | .never => "expiration: never"

/-- The owner of a contract, and the offer that is open. -/
structure Ownership where
  owner : Option Addr
  pendingOwner : Option Addr
  pendingExpiry : Option Expiration
deriving DecidableEq

/-- `cw_ownable::Action`. -/
inductive OwnershipAction
  | transferOwnership (newOwner : String) (expiry : Option Expiration)
  | acceptOwnership
  | renounceOwnership

namespace Ownership

/-- `initialize_owner` with an owner. -/
def initializeOwner (owner : Addr) : Ownership := ⟨some owner, none, none⟩

/-- Whether an account is the owner. -/
def isOwner (o : Ownership) (sender : Addr) : Bool := o.owner == some sender

/-- The owner check of `cw_ownable`. -/
def checkOwner (o : Ownership) (sender : Addr) : ContractResult Unit :=
  match o.owner with
  | some owner => ensure (sender = owner) (.ownership .notOwner)
  | none => .error (.ownership .noOwner)

/-- The owner check of the shared library, with the caller's message. -/
def assertOwner (o : Ownership) (sender : Addr) (notOwnerMessage : String) :
    ContractResult Unit :=
  ensure (o.owner = some sender) (notAuthorized notOwnerMessage)

/-- The current owner, or an error when the ownership was renounced. -/
def currentOwner (o : Ownership) : ContractResult Addr :=
  okOr o.owner (illegalState "Contract ownership has been renounced")

/-- Offer the ownership to `newOwner` until the expiry, which may have come already. -/
def transfer (o : Ownership) (deps : Deps) (sender : Addr) (newOwner : String)
    (expiry : Option Expiration) : ContractResult Ownership := do
  o.checkOwner sender
  let newOwner ← deps.addrValidate newOwner
  return { o with pendingOwner := some newOwner, pendingExpiry := expiry }

/-- The account to which the ownership is offered becomes the owner. -/
def accept (o : Ownership) (env : Env) (sender : Addr) : ContractResult Ownership := do
  let pending ← okOr o.pendingOwner (.ownership .transferNotFound)
  ensure (sender = pending) (.ownership .notPendingOwner)
  ensure ((o.pendingExpiry.any fun expiry => expiry.isExpired env) = false)
    (.ownership .transferExpired)
  return ⟨some pending, none, none⟩

/-- The shared library's `update_ownership`, without the response. -/
def update (o : Ownership) (deps : Deps) (env : Env) (info : MessageInfo)
    (action : OwnershipAction) : ContractResult Ownership := do
  ensure (info.funds = []) (invalidFunds "No funds accepted for ownership updates")
  match action with
  | .renounceOwnership =>
    throw (illegalArgument "Renouncing contract ownership is not supported")
  | .transferOwnership newOwner expiry => o.transfer deps info.sender newOwner expiry
  | .acceptOwnership => o.accept env info.sender

end Ownership

end DemocratizedPrime
