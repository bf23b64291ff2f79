import DemocratizedPrime.Lib.Result
import DemocratizedPrime.Lib.Uint

/-!
# Errors and the values of the host

`ContractError` is the error type that the contracts share.  Its constructors
are the variants that the modelled functions can return, under the names of the
source.  One constructor has no counterpart there: `aborted` is the end of a
call that panics, such as an overflowing `+=` on a decimal.  The host reverts
such a call like any other failed one.

Addresses and denominations are strings.  The amounts are `u128`, and the block
time is a number of nanoseconds in a `u64`.
-/

namespace DemocratizedPrime

/-- `Uint128`, the amounts of coins and of scaled units. -/
abbrev Uint128 := Uint 128

/-- `Uint64`, the clock and the version counters. -/
abbrev Uint64 := Uint 64

/-- `Addr` of `cosmwasm_std`: a validated address keeps the text it was given. -/
abbrev Addr := String

/-- A point in time, in nanoseconds since the epoch. -/
@[ext] structure Timestamp where
  nanos : Uint64
deriving DecidableEq, Repr

/-- The whole seconds of a point in time. -/
def Timestamp.seconds (t : Timestamp) : Nat := t.nanos.val / 1000000000

/-- An amount of one denomination. -/
structure Coin where
  denom : String
  amount : Uint128
deriving DecidableEq, Repr

/-- The operation that an `OverflowError` names. -/
inductive OverflowOperation
  | add | sub | mul | pow
deriving DecidableEq, Repr

/-- Why a ratio is not a decimal. -/
inductive CheckedFromRatioError
  | divideByZero | overflow
deriving DecidableEq, Repr

/-- What `cw_ownable` answers when an ownership action is refused. -/
inductive OwnershipError
  | noOwner | notOwner | notPendingOwner | transferExpired | transferNotFound
deriving DecidableEq, Repr

/-- The errors of the three contracts, and what aborts them. -/
inductive ContractError
  | std (message : String)
  | ownership (error : OwnershipError)
  | decimal256RangeExceeded
  | overflow (message : String)
  | amountNotRepresentable
  | overflowError (operation : OverflowOperation)
  | checkedFromRatioError (error : CheckedFromRatioError)
  | divideByZeroError
  | notAuthorizedError (message : String)
  | invalidFundsError (message : String)
  | notFoundError (message : String)
  | illegalArgumentError (message : String)
  | illegalStateError (message : String)
  | poolNotConfigured
  | stalePriceDataError (assetId : String) (expiredAt : Nat)
  | aborted (reason : String)
deriving DecidableEq, Repr

/-- What a message returns: a value, or the error that undoes it. -/
abbrev ContractResult (α : Type) := Except ContractError α

/-- The sender may not do this. -/
def notAuthorized (message : String) : ContractError := .notAuthorizedError message

/-- The attached coins are not what the message takes. -/
def invalidFunds (message : String) : ContractError := .invalidFundsError message

/-- What the message names does not exist. -/
def notFound (message : String) : ContractError := .notFoundError message

/-- A field of the message is not acceptable. -/
def illegalArgument (message : String) : ContractError := .illegalArgumentError message

/-- The stored state does not allow the message. -/
def illegalState (message : String) : ContractError := .illegalStateError message

/-- What a query of the host returns, `StdResult`: an error is a text. -/
abbrev StdResult (α : Type) := Except String α

/-- The `?` that turns an error of a query into one of the contract. -/
def fromStd {α : Type} : StdResult α → ContractResult α
  | .ok a => .ok a
  | .error message => .error (.std message)

theorem fromStd_eq_ok {α : Type} {x : StdResult α} {a : α} : fromStd x = .ok a ↔ x = .ok a := by
  cases x <;> simp [fromStd]

/-! ## Text -/

/-- The characters that `str::trim` takes off: Unicode's `White_Space`. -/
def isWhiteSpace (c : Char) : Bool :=
  (9 ≤ c.toNat && c.toNat ≤ 13) || c.toNat == 0x20 || c.toNat == 0x85 || c.toNat == 0xA0 ||
    c.toNat == 0x1680 || (0x2000 ≤ c.toNat && c.toNat ≤ 0x200A) || c.toNat == 0x2028 ||
    c.toNat == 0x2029 || c.toNat == 0x202F || c.toNat == 0x205F || c.toNat == 0x3000

/-- `str::trim`: the text without leading and trailing white space. -/
def trim (s : String) : String :=
  String.ofList (((s.toList.dropWhile isWhiteSpace).reverse.dropWhile isWhiteSpace).reverse)

end DemocratizedPrime
