import DemocratizedPrime.CosmWasm.Ownable

/-!
# The price oracle

The contract keeps two stores.  `prices` has the USD price of an asset, and `assetMappings`
has, for an id, the asset whose price it shows and the precision of the conversion.  Both are
written by the owner, each by a message of its own.

Two queries read them.  `queryPricesByAssets` takes the ids that it is asked for, looks up
the mapping, and then the price of the asset that the id is mapped to.
`queryPricesBatch` walks through the prices, a page at a time, and looks up a mapping for
each of their ids.

A mapping may exist for an id that has a price of its own.  Neither message checks that.
-/

namespace DemocratizedPrime.PriceOracle

open Result

/-! ## Model -/

/-- `u32`, for page sizes and staleness thresholds. -/
abbrev Uint32 := Uint 32

/-- The fractional places of a decimal. -/
def maxAssetMappingPrecision : Nat := 18

/-- How long a price without a mapping of its own is fresh. -/
def defaultPriceStalenessThresholdSeconds : Uint32 := 30

/-- The asset that an id is mapped to, and how its price is converted. -/
structure AssetMappingV1 where
  assetId : String
  precision : Uint32
  stalenessThresholdSeconds : Uint32
deriving DecidableEq

namespace AssetMappingV1

/-- The mapping of an id without one: itself, one to one. -/
def default (id : String) : AssetMappingV1 := ⟨id, 0, defaultPriceStalenessThresholdSeconds⟩

/-- A mapping names an asset, with at most 18 fractional places. -/
def validate (m : AssetMappingV1) : ContractResult Unit := do
  ensure (trim m.assetId ≠ "") (illegalArgument "Asset ID cannot be empty")
  ensure (m.precision.val ≤ maxAssetMappingPrecision)
    (illegalArgument s!"{m.assetId}: precision must be <= {maxAssetMappingPrecision}")

end AssetMappingV1

/-- An id, and the mapping to save under it. -/
structure SaveAssetMappingRequestV1 where
  altAssetId : String
  mapping : AssetMappingV1

/-- Such a request names an id as well. -/
def SaveAssetMappingRequestV1.validate (r : SaveAssetMappingRequestV1) : ContractResult Unit := do
  ensure (trim r.altAssetId ≠ "")
    (illegalArgument s!"{r.mapping.assetId}: alternative asset ID cannot be empty")
  r.mapping.validate

/-- `Timestamp::minus_days`, which panics below the epoch. -/
def minusDays (t : Timestamp) (days : Nat) : ContractResult Timestamp := do
  let nanos ← okOr ((Uint.ofNat? 64 (days * 86400000000000)).bind t.nanos.checkedSub)
    (.aborted "attempt to subtract with overflow")
  return ⟨nanos⟩

/-- `Timestamp::plus_minutes`, which panics past the end of the type. -/
def plusMinutes (t : Timestamp) (minutes : Nat) : ContractResult Timestamp := do
  let nanos ← okOr (Uint.ofNat? 64 (t.nanos.val + minutes * 60000000000))
    (.aborted "attempt to add with overflow")
  return ⟨nanos⟩

/-- A price that the owner publishes, perhaps for an earlier second. -/
structure PriceUpdateV1 where
  asset : String
  usd : Decimal256
  asOf : Option Timestamp

/-- A published price is positive and not from the future. -/
def PriceUpdateV1.validate (u : PriceUpdateV1) (currentTime : Timestamp) :
    ContractResult Unit := do
  ensure (trim u.asset ≠ "") (illegalArgument "Asset name cannot be empty")
  ensure (u.usd.isZero = false) (illegalArgument s!"{u.asset}: asset price must be > 0")
  match u.asOf with
  | none => return ()
  | some asOf =>
    let oldest ← minusDays currentTime 30
    ensure (oldest.nanos.val ≤ asOf.nanos.val) (illegalArgument "Price timestamp too old")
    let latest ← plusMinutes currentTime 5
    ensure (asOf.nanos.val ≤ latest.nanos.val)
      (illegalArgument "Price timestamp too far into the future")

/-- A stored price, and the second that it is of. -/
structure PriceV1 where
  priceUsd : Decimal256
  asOfEpochSecond : Nat
deriving DecidableEq

/-- The price that an update stores.  Without a time it is of the current block. -/
def PriceV1.ofUpdate (env : Env) (update : PriceUpdateV1) : PriceV1 where
  priceUsd := update.usd
  asOfEpochSecond := (update.asOf.getD env.blockTime).seconds

/-! ## Responses of the queries -/

/-- `Decimal256::from_str("10")`. -/
def ten : Decimal256 := ⟨10 * decimalFractional, by decide⟩

/-- The price of a base unit, for the deprecated field. -/
def scalePrice (displayPrice : Decimal256) (basePrecision : Nat) : ContractResult Decimal256 := do
  let divisor ← ten.checkedPow basePrecision
  displayPrice.checkedDiv divisor

/-- The answer for a stored price: scaled by the precision, with its expiration. -/
def intoResponse (assetMapping : AssetMappingV1) (price : PriceV1) :
    ContractResult AssetPriceResponseV1 := do
  let priceUsd ← scalePrice price.priceUsd assetMapping.precision.val
  let expiration := price.asOfEpochSecond + assetMapping.stalenessThresholdSeconds.val
  ensure (expiration < 2 ^ 64) (.aborted "attempt to add with overflow")
  return {
    priceUsd
    displayPriceUsd := price.priceUsd
    precision := assetMapping.precision.val
    asOfEpochSecond := price.asOfEpochSecond
    expirationEpochSeconds := expiration }

/-! ## Storage -/

/-- What the oracle stores. -/
structure OracleStorage where
  ownership : Ownership
  assetMappings : Std.ExtTreeMap String AssetMappingV1
  prices : Std.ExtTreeMap String PriceV1

namespace OracleStorage

variable (store : OracleStorage)

/-- The mapping of an id, if it has one. -/
def tryGetAssetMappingV1 (altAssetId : String) : Option AssetMappingV1 :=
  store.assetMappings[altAssetId]?

/-- The id as it was given, and its mapping or the default one. -/
def getOrDefaultAssetMappingV1 (altAssetId : String) : String × AssetMappingV1 :=
  match store.tryGetAssetMappingV1 altAssetId with
  | none => (altAssetId, AssetMappingV1.default altAssetId)
  | some am => (altAssetId, am)

/-- Save a mapping, over an older one. -/
def saveAssetMappingV1 (altAssetId : String) (mapping : AssetMappingV1) : OracleStorage :=
  { store with assetMappings := store.assetMappings.insert altAssetId mapping }

/-- Drop the mapping of an id. -/
def removeAssetMappingV1 (altAssetId : String) : OracleStorage :=
  { store with assetMappings := store.assetMappings.erase altAssetId }

/-- The price that is stored for an asset. -/
def tryGetUsdPriceV1 (asset : String) : Option PriceV1 := store.prices[asset]?

/-- Save a price, over an older one. -/
def saveUsdPriceV1 (asset : String) (price : PriceV1) : OracleStorage :=
  { store with prices := store.prices.insert asset price }

/-- The prices after an id, in the order of the ids, up to a number. -/
def getSortedPricesV1 (prevAsset : Option String) (batchSize : Uint32) :
    List (String × PriceV1) :=
  let entries := match prevAsset with
    | none => store.prices.toList
    | some prev => store.prices.toList.filter fun entry => (compare prev entry.1).isLT
  entries.take batchSize.val

end OracleStorage

/-! ## Messages -/

/-- The messages of the oracle. -/
inductive ExecuteMsg
  | updateOwnership (action : OwnershipAction)
  | updateAssetPrices (prices : List PriceUpdateV1)
  | updateAssetMappings (toUpdate : List SaveAssetMappingRequestV1) (toRemove : List String)

/-- The value of an attribute: a text, or the prices that its JSON text is made from. -/
inductive AttributeValue
  | text (value : String)
  | prices (value : PriceMap)

/-- The attributes of a response; the oracle sends no messages. -/
structure OracleResponse where
  attributes : List (String × AttributeValue)

/-! ## Instantiate -/

/-- A new oracle has an owner, and neither mappings nor prices. -/
def instantiate (deps : Deps) (owner : String) :
    ContractResult (OracleStorage × OracleResponse) := do
  let owner ← deps.addrValidate owner
  return ({
    ownership := Ownership.initializeOwner owner
    assetMappings := ∅
    prices := ∅ }, ⟨[("action", .text "instantiate")]⟩)

/-! ## Execute -/

/-- One round of the loop over the names. -/
def checkNameUnseen (seen : List String) (name : String) : ContractResult (List String) := do
  ensure (seen.contains name = false) (illegalArgument s!"Duplicate name: {name}")
  return name :: seen

/-- No name twice, and the first that is twice is reported. -/
def validateNameUniqueness (names : List String) : ContractResult Unit := do
  let _ ← names.foldlM checkNameUnseen []
  return ()

/-- The storage and the two reports that the loop over the updates builds. -/
structure PriceUpdates where
  store : OracleStorage
  previousPrices : PriceMap
  updatedPrices : PriceMap

/-- Report the price that an update is about to replace. -/
def PriceUpdates.reportPrevious (u : PriceUpdates) (id : String) (assetMetadata : AssetMappingV1) :
    Option PriceV1 → ContractResult PriceMap
  | none => return u.previousPrices
  | some previousPrice => do
    let response ← intoResponse assetMetadata previousPrice
    return u.previousPrices.insert id response

/-- One round of the loop over the updates. -/
def updateAssetPrice (env : Env) (u : PriceUpdates) (update : PriceUpdateV1) :
    ContractResult PriceUpdates := do
  let (displayAssetId, assetMetadata) := u.store.getOrDefaultAssetMappingV1 update.asset
  let previousPrices ← u.reportPrevious displayAssetId assetMetadata
    (u.store.tryGetUsdPriceV1 update.asset)
  update.validate env.blockTime
  let newPrice := PriceV1.ofUpdate env update
  let store := u.store.saveUsdPriceV1 update.asset newPrice
  let response ← intoResponse assetMetadata newPrice
  return ⟨store, previousPrices, u.updatedPrices.insert displayAssetId response⟩

/-- Publish prices, each validated before it is saved. -/
def tryUpdateAssetPrices (store : OracleStorage) (env : Env) (info : MessageInfo)
    (priceUpdates : List PriceUpdateV1) : ContractResult (OracleStorage × OracleResponse) := do
  store.ownership.assertOwner info.sender "Only the contract owner may update asset prices"
  validateNameUniqueness (priceUpdates.map (·.asset))
  let u ← priceUpdates.foldlM (updateAssetPrice env) ⟨store, ∅, ∅⟩
  return (u.store, ⟨[
    ("action", .text "set_asset_prices"),
    ("previous_prices_json", .prices u.previousPrices),
    ("updated_prices_json", .prices u.updatedPrices)]⟩)

/-- One round of the loop over the mappings to save. -/
def updateAssetMapping (store : OracleStorage) (request : SaveAssetMappingRequestV1) :
    ContractResult OracleStorage := do
  request.validate
  return store.saveAssetMappingV1 request.altAssetId request.mapping

/-- Drop the mappings that are to go, then save the others. -/
def tryUpdateAssetMappings (store : OracleStorage) (info : MessageInfo)
    (toUpdate : List SaveAssetMappingRequestV1) (toRemove : List String) :
    ContractResult (OracleStorage × OracleResponse) := do
  store.ownership.assertOwner info.sender "Only the contract owner may update asset mappings"
  let store := toRemove.foldl OracleStorage.removeAssetMappingV1 store
  validateNameUniqueness (toUpdate.map (·.altAssetId))
  let store ← toUpdate.foldlM updateAssetMapping store
  return (store, ⟨[("action", .text "update_asset_mappings")]⟩)

/-- Offer, take over or give up the ownership. -/
def updateOwnership (deps : Deps) (store : OracleStorage) (env : Env) (info : MessageInfo)
    (action : OwnershipAction) : ContractResult (OracleStorage × OracleResponse) := do
  let ownership ← store.ownership.update deps env info action
  return ({ store with ownership }, ⟨[
    ("action", .text "update_ownership"),
    ("owner", .text (optionText ownership.owner)),
    ("pending_owner", .text (optionText ownership.pendingOwner)),
    ("pending_expiry", .text (optionText (ownership.pendingExpiry.map Expiration.toText)))]⟩)

/-- The entry point: no coins are taken, and each message goes to its handler. -/
def execute (deps : Deps) (store : OracleStorage) (env : Env) (info : MessageInfo)
    (msg : ExecuteMsg) : ContractResult (OracleStorage × OracleResponse) := do
  ensure (info.funds = []) (invalidFunds "No funds accepted for price oracle actions")
  match msg with
  | .updateOwnership action => updateOwnership deps store env info action
  | .updateAssetPrices prices => tryUpdateAssetPrices store env info prices
  | .updateAssetMappings toUpdate toRemove => tryUpdateAssetMappings store info toUpdate toRemove

/-! ## Queries -/

/-- Why a query of prices fails. -/
inductive QueryError
  | contract (error : ContractError)
  | notFoundError (message : String)
deriving DecidableEq

/-- What a query of prices returns. -/
abbrev QueryResult (α : Type) := Except QueryError α

section Queries

variable (store : OracleStorage)

/-- One round of the loop over the requested ids. -/
def addPriceByAsset (skipMissing : Bool) (prices : PriceMap) (requestedAssetId : String) :
    QueryResult PriceMap := do
  let (_, displayAssetMetadata) := store.getOrDefaultAssetMappingV1 requestedAssetId
  match store.tryGetUsdPriceV1 displayAssetMetadata.assetId with
  | none =>
    if skipMissing then return prices
    else throw (.notFoundError displayAssetMetadata.assetId)
  | some price =>
    let response ← (intoResponse displayAssetMetadata price).mapError .contract
    return prices.insert requestedAssetId response

/-- The prices of the named assets; those without one fail the query, or are left out. -/
def queryPricesByAssets (assets : List String) (skipMissing : Bool) : QueryResult PriceMap :=
  assets.foldlM (addPriceByAsset store skipMissing) ∅

/-- One round of the loop over the entries of a page. -/
def addPriceOfBatch (priceMap : PriceMap) (entry : String × PriceV1) : QueryResult PriceMap := do
  let (displayAssetId, assetMetadata) := match store.tryGetAssetMappingV1 entry.1 with
    | none => (entry.1, AssetMappingV1.default entry.1)
    | some am => (entry.1, am)
  let response ← (intoResponse assetMetadata entry.2).mapError .contract
  return priceMap.insert displayAssetId response

/-- One page of all stored prices. -/
def queryPricesBatch (prevAsset : Option String) (batchSize : Uint32) : QueryResult PriceMap :=
  (store.getSortedPricesV1 prevAsset batchSize).foldlM (addPriceOfBatch store) ∅

end Queries

end DemocratizedPrime.PriceOracle
