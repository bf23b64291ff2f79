import DemocratizedPrime.Oracle.Price
import DemocratizedPrime.Lib.TreeMap
import Std.Data.ExtTreeMap

/-!
# The host

What a contract call reads from the chain: `Env`, `MessageInfo`, and `Deps`,
which answers the queries that leave the contract.  The answers of `Deps` are
parameters of a call, so a statement about every call is a statement about every
oracle, bank and attribute module.

`getPriceFromOracle` is the one query with a loop in it.  The oracle answers
asset by asset, and an asset without a price either stops the query or is left
out, as the caller asked.
-/

namespace DemocratizedPrime

open Result

/-- The block that runs a message, and the address of the contract that it runs. -/
structure Env where
  blockTime : Timestamp
  blockHeight : Nat
  contractAddress : Addr

/-- Who sent a message, and the coins that came with it. -/
structure MessageInfo where
  sender : Addr
  funds : List Coin

/-- One page of attribute names, and the key of the next page. -/
structure AttributePage where
  names : List String
  nextKey : Option String

/-- A map from denominations to prices, `PriceMapResponse`. -/
abbrev PriceMap := Std.ExtTreeMap String AssetPriceResponseV1

/-- The queries of a call.  `addrError` is the complaint of the address check,
and `none` for an address in canonical form. -/
structure Deps where
  addrError : String → Option String
  oraclePrice : Addr → String → StdResult (Option AssetPriceResponseV1)
  attributeNames : Addr → String → StdResult (List String)
  scan : Addr → String → String → StdResult AttributePage
  balance : Addr → String → StdResult Uint128
  scaledBalance : Addr → Addr → StdResult Uint128

/-- `addr_validate`: a valid address is returned as it was given. -/
def Deps.addrValidate (deps : Deps) (address : String) : ContractResult Addr :=
  match deps.addrError address with
  | none => .ok address
  | some message => .error (.std message)

/-- One round of the oracle's loop over the requested assets. -/
def Deps.addOraclePrice (deps : Deps) (oracle : Addr) (skipMissing : Bool) (prices : PriceMap)
    (asset : String) : ContractResult PriceMap := do
  let price ← fromStd (deps.oraclePrice oracle asset)
  match price with
  | some p => return prices.insert asset p
  | none =>
    if skipMissing then return prices
    else throw (.std s!"Generic error: Querier contract error: not found: {asset}")

/-- The oracle's `GetPricesByAsset`. -/
def getPriceFromOracle (deps : Deps) (oracle : Addr) (assets : List String)
    (skipMissing : Bool) : ContractResult PriceMap :=
  assets.foldlM (deps.addOraclePrice oracle skipMissing) ∅

/-- The quote that the oracle stores for an asset, if it answers at all. -/
def Deps.storedQuote (deps : Deps) (oracle : Addr) (asset : String) :
    Option AssetPriceResponseV1 :=
  match deps.oraclePrice oracle asset with
  | .ok quote => quote
  | .error _ => none

/-- A round of the loop looks up its own asset. -/
theorem addOraclePrice_spec {deps : Deps} {oracle : Addr} {skip : Bool} {m m' : PriceMap}
    {asset : String} (h : deps.addOraclePrice oracle skip m asset = .ok m') (a : String) :
    m'[a]? = if asset = a ∧ (deps.storedQuote oracle asset).isSome then
      deps.storedQuote oracle asset else m[a]? := by
  simp only [Deps.addOraclePrice, bind_eq_ok, fromStd_eq_ok] at h
  obtain ⟨quote, hquote, h⟩ := h
  have hstored : deps.storedQuote oracle asset = quote := by
    unfold Deps.storedQuote
    rw [hquote]
  rw [hstored]
  cases quote with
  | none =>
    cases skip with
    | false => cases h
    | true =>
      rw [← pure_eq_ok.mp h, if_neg (by simp)]
  | some p =>
    rw [← pure_eq_ok.mp h, TreeMap.getElem?_insert_eq]
    by_cases ha : asset = a
    · rw [if_pos ha, if_pos ⟨ha, rfl⟩]
    · rw [if_neg ha, if_neg fun hc => ha hc.1]

/-- The oracle's answer holds the stored quotes of the requested assets. -/
theorem getPriceFromOracle_getElem? {deps : Deps} {oracle : Addr} {assets : List String}
    {skip : Bool} {m : PriceMap} (h : getPriceFromOracle deps oracle assets skip = .ok m)
    (a : String) : m[a]? = if a ∈ assets then deps.storedQuote oracle a else none := by
  have hloop := foldlM_ok_induct
    (fun done (b : PriceMap) => b[a]? = if a ∈ done then deps.storedQuote oracle a else none)
    (fun done asset b b' hb hstep => by
      rw [addOraclePrice_spec hstep a, hb]
      by_cases ha : asset = a
      · subst ha
        cases hq : deps.storedQuote oracle asset <;> simp
      · have hne : a ≠ asset := fun he => ha he.symm
        simp [ha, hne]) (by simp) h
  exact hloop

/-- An oracle that may skip answers when it answers for each asset. -/
theorem getPriceFromOracle_isOk_iff {deps : Deps} {oracle : Addr} {assets : List String} :
    (∃ m, getPriceFromOracle deps oracle assets true = .ok m) ↔
      ∀ a ∈ assets, ∃ quote, deps.oraclePrice oracle a = .ok quote := by
  constructor
  · rintro ⟨m, h⟩
    have hloop := foldlM_ok_induct
      (fun done (_ : PriceMap) => ∀ a ∈ done, ∃ quote, deps.oraclePrice oracle a = .ok quote)
      (fun done asset b b' hb hstep => by
        simp only [Deps.addOraclePrice, bind_eq_ok, fromStd_eq_ok] at hstep
        obtain ⟨quote, hquote, -⟩ := hstep
        intro a ha
        rcases List.mem_append.mp ha with hdone | hnew
        · exact hb a hdone
        · rw [List.mem_singleton] at hnew
          exact ⟨quote, hnew ▸ hquote⟩) (by simp) h
    exact hloop
  · intro h
    refine exists_foldlM_ok (fun b a ha => ?_) ∅
    obtain ⟨quote, hquote⟩ := h a ha
    unfold Deps.addOraclePrice
    rw [hquote]
    cases quote with
    | none => exact ⟨b, rfl⟩
    | some p => exact ⟨b.insert a p, rfl⟩

theorem addrValidate_eq_ok {deps : Deps} {s : String} {a : Addr} :
    deps.addrValidate s = .ok a ↔ deps.addrError s = none ∧ a = s := by
  unfold Deps.addrValidate
  cases deps.addrError s <;> simp [eq_comm]

end DemocratizedPrime
