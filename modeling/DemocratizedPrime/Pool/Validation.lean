import DemocratizedPrime.Pool.Pricing
import Mathlib.Data.List.Dedup

/-!
# Checks that the messages share

The checks of attached coins, of account attributes, of attribute patterns and
of roles.  A wildcard pattern `*.suffix` is checked by a scan of the account's
attributes, page by page, up to a fixed number of pages.
-/

namespace DemocratizedPrime

open Result

/-! ## Attached coins -/

/-- Exactly one coin, in the lending denomination and not below the minimum. -/
def validateSingleCoinDenom (info : MessageInfo) (lendingDenom : Denom) (minAmount : Uint128) :
    ContractResult Uint128 :=
  match info.funds with
  | [coin] => do
    ensure (coin.denom = lendingDenom.name) (illegalArgument s!"Expected denom {lendingDenom.name}")
    ensure (minAmount.val ≤ coin.amount.val)
      (illegalArgument s!"Amount {coin.amount} below minimum {minAmount}")
    return coin.amount
  | _ => throw (illegalArgument "Exactly one coin must be sent")

theorem validateSingleCoinDenom_eq_ok {info : MessageInfo} {d : Denom} {m a : Uint128} :
    validateSingleCoinDenom info d m = .ok a ↔ info.funds = [⟨d.name, a⟩] ∧ m.val ≤ a.val := by
  unfold validateSingleCoinDenom
  split
  · rename_i coin hfunds
    rw [hfunds]
    simp only [bind_eq_ok, ensure_eq_ok, exists_const, pure_eq_ok, List.cons.injEq, and_true]
    obtain ⟨denom, amount⟩ := coin
    simp only [Coin.mk.injEq]
    constructor
    · rintro ⟨hd, hm, rfl⟩
      exact ⟨⟨hd, rfl⟩, hm⟩
    · rintro ⟨⟨hd, rfl⟩, hm⟩
      exact ⟨hd, hm, rfl⟩
  · rename_i hne
    constructor
    · intro h
      cases h
    · rintro ⟨hfunds, -⟩
      exact absurd hfunds (hne _)

/-- The error of a message that takes no coins. -/
def noFundsAccepted : ContractError := invalidFunds "No funds accepted"

/-! ## Attribute patterns -/

/-- An exact name, or a name behind one leading `*.`. -/
def validateRequiredAttrPattern (name : String) : ContractResult Unit := do
  ensure (trim name ≠ "") (illegalArgument "required attribute name cannot be empty")
  ensure (name.toList.any isWhiteSpace = false)
    (illegalArgument "required attribute name cannot contain whitespace")
  if name.toList.contains '*' then
    match name.toList with
    | '*' :: '.' :: suffix =>
      ensure (suffix ≠ [])
        (illegalArgument "wildcard pattern *.suffix must have a non-empty suffix")
      ensure (suffix.contains '*' = false)
        (illegalArgument "wildcard pattern may contain only one leading *")
      ensure ((suffix.splitOn '.').any List.isEmpty = false)
        (illegalArgument "wildcard suffix cannot contain empty name segments")
    | _ => throw (illegalArgument (s!"invalid wildcard attribute pattern \"{name}\": " ++
        s!"only leading *.suffix is supported"))
  else return ()

/-- The first pattern that is not valid is reported. -/
def validateRequiredAttrPatterns (attrs : List String) : ContractResult Unit :=
  attrs.forM validateRequiredAttrPattern

/-! ## Account attributes -/

/-- `ATTR_SCAN_MAX_PAGES`. -/
def attrScanMaxPages : Nat := 5

/-- Look through up to `pages` pages, from the page of `key` on. -/
def scanHasWildcardMatch (deps : Deps) (account suffix : String) :
    (pages : Nat) → (key : String) → ContractResult Bool
  | 0, _ => return false
  | pages + 1, key => do
    let page ← fromStd (deps.scan account suffix key)
    if page.names.any fun name => suffix.toList.isSuffixOf name.toList then return true
    else
      match page.nextKey.filter (· ≠ "") with
      | some next => scanHasWildcardMatch deps account suffix pages next
      | none => return false

/-- Whether an account has an attribute that the pattern asks for. -/
def accountHasRequiredAttribute (deps : Deps) (account required : String) :
    ContractResult Bool :=
  match required.toList with
  | '*' :: '.' :: rest =>
    scanHasWildcardMatch deps account (String.ofList ('.' :: rest)) attrScanMaxPages ""
  | _ => do
    let names ← fromStd (deps.attributeNames account required)
    return !names.isEmpty

/-- One round of the loop over the required attributes. -/
def requireAttribute (deps : Deps) (account : String) (requiredAttrs : List String)
    (role attr : String) : ContractResult Unit := do
  let present ← accountHasRequiredAttribute deps account attr
  let names := String.intercalate ", " requiredAttrs
  ensure (present = true)
    (notAuthorized s!"Missing required {role} attribute; must have all of: [{names}]")

/-- The account has an attribute for each of the patterns. -/
def validateAccountAttrs (deps : Deps) (account : String) (requiredAttrs : List String)
    (role : String) : ContractResult Unit :=
  requiredAttrs.forM (requireAttribute deps account requiredAttrs role)

/-- The check of a lender. -/
def validateLenderAttrs (deps : Deps) (sender : String) (requiredAttrs : List String) :
    ContractResult Unit :=
  validateAccountAttrs deps sender requiredAttrs "lender"

/-- The check of a borrower. -/
def validateBorrowerAttrs (deps : Deps) (sender : String) (requiredAttrs : List String) :
    ContractResult Unit :=
  validateAccountAttrs deps sender requiredAttrs "borrower"

/-- The number of distinct assets, held or added, stays within the limit. -/
def validateBorrowerCollateralTypeLimit (newCollateral : List Coin) (existing : Amounts)
    (maxTypes : Nat) : ContractResult Unit := do
  let n := (newCollateral.map (·.denom) ++ existing.keys).dedup.length
  ensure (n < 2 ^ 32) (illegalState "Too many collateral types")
  ensure (n ≤ maxTypes)
    (illegalArgument s!"Too many collateral types provided (total [{n}] limit: [{maxTypes}])")

/-! ## Roles -/

/-- Only the custodian passes. -/
def assertCustodian (contract : ContractStateV1) (sender : Addr) (notCustodianMessage : String) :
    ContractResult Unit := do
  let custodian ← okOr contract.custodian (.notAuthorizedError "contract custodian not set")
  ensure (sender = custodian) (.notAuthorizedError notCustodianMessage)

/-- Only the liquidator passes. -/
def assertLiquidator (contract : ContractStateV1) (sender : Addr)
    (notLiquidatorMessage : String) : ContractResult Unit := do
  let liquidator ← okOr contract.liquidator (.notAuthorizedError "contract liquidator not set")
  ensure (sender = liquidator) (.notAuthorizedError notLiquidatorMessage)

/-- Only the owner and the custodian pass. -/
def assertOwnerOrCustodian (store : PoolStorage) (sender : Addr) (notPermittedMessage : String) :
    ContractResult Unit :=
  if store.ownership.isOwner sender then return ()
  else assertCustodian store.contract sender notPermittedMessage

end DemocratizedPrime
