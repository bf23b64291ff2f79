import DemocratizedPrime.Lib.Provenance
import DemocratizedPrime.Oracle.Agreement

/-!
# The oracle is a log

`published` and `mapped` are what a message adds to two logs: the prices that it publishes, and
the mappings that it saves or removes.  The stores of the oracle are the latest entries of
the logs (`OracleRun.prices_eq`, `OracleRun.assetMappings_eq`), and an answer to a query is
a function of the logs (`oracle_refines_log`).

A price is in the log only if the owner put it there, is not zero, and had a recent time
(`OracleStep.publication`).
-/

namespace DemocratizedPrime.PriceOracle

open Result TreeMap Transitions

/-! ## The logs -/

/-- The prices that a message publishes, in order. -/
def OracleCall.published (c : OracleCall) : List (String × PriceV1) :=
  match c.msg with
  | .updateAssetPrices updates => updates.map fun u => (u.asset, PriceV1.ofUpdate c.env u)
  | _ => []

/-- The mappings that a message removes, as `none`, and then saves. -/
def OracleCall.mapped (c : OracleCall) : List (String × Option AssetMappingV1) :=
  match c.msg with
  | .updateAssetMappings toUpdate toRemove =>
    (toRemove.map fun id => (id, none)) ++ toUpdate.map fun r => (r.altAssetId, some r.mapping)
  | _ => []

/-- The prices that a list of calls publishes, in order. -/
def publishedIn (calls : List OracleCall) : List (String × PriceV1) :=
  calls.flatMap OracleCall.published

/-- The mappings that it saves, and those that it drops as `none`. -/
def mappedIn (calls : List OracleCall) : List (String × Option AssetMappingV1) :=
  calls.flatMap OracleCall.mapped

section

variable {s s' : OracleStorage} {c : OracleCall}

theorem OracleStep.prices_eq (h : OracleStep s c s') (id : String) :
    s'.prices[id]? = (latest c.published id).elim s.prices[id]? some := by
  have heffect := h.effect
  unfold OracleCall.published
  generalize c.msg = msg at heffect ⊢
  cases heffect with
  | updateOwnership action ownership => rfl
  | updateAssetPrices updates distinct =>
    show (savePrices c.env updates s.prices)[id]? = _
    unfold savePrices
    rw [getElem?_foldl_insert_eq_latest]
    cases latest (updates.map fun u => (u.asset, PriceV1.ofUpdate c.env u)) id <;> rfl
  | updateAssetMappings toUpdate toRemove distinct valid => rfl

/-- What is removed can be saved again by the same message. -/
theorem OracleStep.assetMappings_eq (h : OracleStep s c s') (id : String) :
    s'.assetMappings[id]? = (latest c.mapped id).elim s.assetMappings[id]? fun m => m := by
  have heffect := h.effect
  unfold OracleCall.mapped
  generalize c.msg = msg at heffect ⊢
  cases heffect with
  | updateOwnership action ownership => rfl
  | updateAssetPrices updates distinct => rfl
  | updateAssetMappings toUpdate toRemove distinct valid =>
    have hsaved : latest (toUpdate.map fun r => (r.altAssetId, some r.mapping)) id =
        (latest (toUpdate.map fun r => (r.altAssetId, r.mapping)) id).map some := by
      rw [← latest_map_snd, List.map_map]
      rfl
    show (saveMappings toUpdate (toRemove.foldl (fun m a => m.erase a) s.assetMappings))[id]? = _
    unfold saveMappings
    rw [getElem?_foldl_insert_eq_latest, getElem?_foldl_erase, latest_append, latest_map_const,
      hsaved]
    by_cases hremoved : id ∈ toRemove
    · cases latest (toUpdate.map fun r => (r.altAssetId, r.mapping)) id <;> simp [hremoved]
    · cases latest (toUpdate.map fun r => (r.altAssetId, r.mapping)) id <;> simp [hremoved]

/-! ## What may be published -/

/-- A price in the log of a message: the owner signed it, it is not zero, and its time is
at most 30 days before the block and 5 minutes after it. -/
structure Publication (s : OracleStorage) (c : OracleCall) (price : PriceV1) : Prop where
  signed : s.ownership.owner = some c.info.sender
  positive : price.priceUsd.isZero = false
  recent : c.env.blockTime.seconds ≤ price.asOfEpochSecond + 30 * 86400
  notAhead : price.asOfEpochSecond ≤ c.env.blockTime.seconds + 5 * 60

theorem PriceUpdateV1.validate_spec {u : PriceUpdateV1} {env : Env} {x : Unit}
    (h : u.validate env.blockTime = .ok x) :
    (PriceV1.ofUpdate env u).priceUsd.isZero = false ∧
      env.blockTime.seconds ≤ (PriceV1.ofUpdate env u).asOfEpochSecond + 30 * 86400 ∧
      (PriceV1.ofUpdate env u).asOfEpochSecond ≤ env.blockTime.seconds + 5 * 60 := by
  simp only [PriceUpdateV1.validate, bind_eq_ok, ensure_eq_ok, exists_const] at h
  obtain ⟨-, hzero, h⟩ := h
  unfold PriceV1.ofUpdate Timestamp.seconds
  refine ⟨hzero, ?_⟩
  cases hasOf : u.asOf with
  | none =>
    dsimp only [Option.getD]
    omega
  | some asOf =>
    rw [hasOf] at h
    simp only [minusDays, plusMinutes, bind_eq_ok, okOr_eq_ok, Option.bind_eq_some_iff,
      Uint.ofNat?_eq_some, Uint.checkedSub_eq_some, pure_eq_ok, ensure_eq_ok] at h
    obtain ⟨_, ⟨oldest, ⟨days, hdays, hsub⟩, rfl⟩, -, hold, _, ⟨latest, hadd, rfl⟩, hnew⟩ := h
    dsimp only [Option.getD] at *
    omega

theorem OracleStep.publication (h : OracleStep s c s') {id : String} {price : PriceV1}
    (hp : (id, price) ∈ c.published) : Publication s c price := by
  unfold OracleCall.published at hp
  obtain ⟨res, h⟩ := h
  simp only [execute, bind_eq_ok, ensure_eq_ok, exists_const] at h
  obtain ⟨-, h⟩ := h
  split at hp
  · rename_i updates hmsg
    rw [hmsg] at h
    simp only [tryUpdateAssetPrices, Ownership.assertOwner, bind_eq_ok, ensure_eq_ok, exists_const,
      pure_eq_ok, Prod.mk.injEq] at h
    obtain ⟨howner, _, -, u, hloop, -, -⟩ := h
    obtain ⟨update, hupdate, heq⟩ := List.mem_map.mp hp
    cases heq
    have hvalid := foldlM_ok_induct
      (fun done (_ : PriceUpdates) => ∀ update ∈ done, update.validate c.env.blockTime = .ok ())
      (fun done update u u' hdone hround => by
        simp only [updateAssetPrice, bind_eq_ok] at hround
        obtain ⟨_, -, _, hvalid, -⟩ := hround
        intro x hx
        rcases List.mem_append.mp hx with hold | hnew
        · exact hdone x hold
        · rw [List.mem_singleton.mp hnew]
          exact hvalid) (by simp) hloop
    obtain ⟨hpositive, hrecent, hahead⟩ := PriceUpdateV1.validate_spec (hvalid update hupdate)
    exact ⟨howner, hpositive, hrecent, hahead⟩
  · cases hp

end

/-! ## Runs -/

section

variable {s₀ s : OracleStorage} {ts : List (Transition OracleStorage OracleCall)}

/-- The messages of a run. -/
def callsOf (ts : List (Transition OracleStorage OracleCall)) : List OracleCall :=
  ts.map (·.label)

/-- The mapping of an id, by the log. -/
def mappingFrom (calls : List OracleCall) (id : String) : AssetMappingV1 :=
  ((latest (mappedIn calls) id).elim none fun m => m).getD (AssetMappingV1.default id)

/-- What is shown for an id, by the logs: the latest price of the asset it is mapped to. -/
def quoteFrom (calls : List OracleCall) (id : String) :
    ContractResult (Option AssetPriceResponseV1) :=
  match latest (publishedIn calls) (mappingFrom calls id).assetId with
  | none => return none
  | some price => some <$> intoResponse (mappingFrom calls id) price

theorem metadata_eq_getD (s : OracleStorage) (id : String) :
    s.metadata id = s.assetMappings[id]?.getD (AssetMappingV1.default id) := by
  cases hm : s.assetMappings[id]? with
  | none => exact metadata_of_unmapped hm
  | some m => exact metadata_of_mapped hm

theorem instantiate_empty {deps : Deps} {owner : String} {res : OracleResponse}
    (h : instantiate deps owner = .ok (s, res)) : s.prices = ∅ ∧ s.assetMappings = ∅ := by
  simp only [instantiate, bind_eq_ok, pure_eq_ok, Prod.mk.injEq] at h
  obtain ⟨_, -, rfl, -⟩ := h
  exact ⟨rfl, rfl⟩

/-- The stored prices are the latest ones published. -/
theorem OracleRun.prices_eq (hstart : s₀.prices = ∅) (run : Run OracleStep s₀ ts s) (id : String) :
    s.prices[id]? = latest (publishedIn (callsOf ts)) id := by
  rw [run.latest_eq (T := fun (s : OracleStorage) id => s.prices[id]?)
    (fun _ _ _ h => h.prices_eq) id, hstart, publishedIn, callsOf, List.flatMap_map]
  cases latest (ts.flatMap fun t => t.label.published) id <;> simp

theorem OracleRun.metadata_eq (hstart : s₀.assetMappings = ∅) (run : Run OracleStep s₀ ts s)
    (id : String) : s.metadata id = mappingFrom (callsOf ts) id := by
  rw [metadata_eq_getD, run.latest_eq (T := fun (s : OracleStorage) id => s.assetMappings[id]?)
    (fun _ _ _ h => h.assetMappings_eq) id, hstart, mappingFrom, mappedIn, callsOf,
    List.flatMap_map]
  cases latest (ts.flatMap fun t => t.label.mapped) id <;> simp

/-- At the end of every run the oracle stores and answers what the logs of the run say, and
the owner of the time published every price in them. -/
theorem oracle_refines_log {deps : Deps} {owner : String} {res : OracleResponse}
    (hstart : instantiate deps owner = .ok (s₀, res)) (run : Run OracleStep s₀ ts s) :
    (∀ id, s.prices[id]? = latest (publishedIn (callsOf ts)) id) ∧
      (∀ id, s.quote id = quoteFrom (callsOf ts) id) ∧
      (∀ assets skipMissing answer, queryPricesByAssets s assets skipMissing = .ok answer →
        ∀ id r, answer[id]? = some r ↔ id ∈ assets ∧ quoteFrom (callsOf ts) id = .ok (some r)) ∧
      ∀ t ∈ ts, ∀ id price, (id, price) ∈ t.label.published → Publication t.pre t.label price := by
  obtain ⟨hprices, hmappings⟩ := instantiate_empty hstart
  have hquote : ∀ id, s.quote id = quoteFrom (callsOf ts) id := by
    intro id
    unfold OracleStorage.quote quoteFrom
    rewrite [OracleRun.metadata_eq hmappings run, OracleRun.prices_eq hprices run]
    rfl
  refine ⟨OracleRun.prices_eq hprices run, hquote, fun assets skip answer h id r => ?_,
    fun t ht id price hp => (run.isStep t ht).publication hp⟩
  rw [queryPricesByAssets_getElem? h, ← hquote]
  by_cases hid : id ∈ assets
  · rw [if_pos hid]
    unfold OracleStorage.quoted
    cases hq : s.quote id with
    | error e => simp
    | ok q => simp [hid]
  · simp [hid]

end

namespace Demo

/-- `BTC` is published twice, and the id that is mapped to it is removed and saved again. -/
def republished : List OracleCall :=
  [oracleCall (.updateAssetPrices [⟨"BTC", dollars 100000, none⟩]), mapNbtc,
    oracleCall (.updateAssetPrices [⟨"BTC", dollars 101000, none⟩]),
    oracleCall (.updateAssetMappings [⟨"nbtc", ⟨"BTC", 8, 60⟩⟩] ["nbtc"])]

theorem republished_ok : endsWith republished (none, some (dollars 101000)) = true := by
  decide +kernel

end Demo

theorem oracle_refines_log_republished :
    ∃ ts s, Run OracleStep Demo.deployed ts s ∧ callsOf ts = Demo.republished ∧
      s.prices["BTC"]? = latest (publishedIn Demo.republished) "BTC" ∧
      Demo.nbtcPrices s = (none, some (Demo.dollars 101000)) := by
  obtain ⟨ts, s, run, hcalls, hprices⟩ := Demo.exists_run Demo.republished_ok
  obtain ⟨hstored, -⟩ := oracle_refines_log
    (show instantiate Demo.oracleDeps "owner" = .ok (Demo.deployed, _) from rfl) run
  have hlog : callsOf ts = Demo.republished := hcalls
  rw [hlog] at hstored
  exact ⟨ts, s, run, hlog, hstored "BTC", hprices⟩

end DemocratizedPrime.PriceOracle
