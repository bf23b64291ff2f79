import DemocratizedPrime.Common.Lifetime
import DemocratizedPrime.Oracle.Publications
import DemocratizedPrime.Pool.Migrate

/-!
# The lifetime of an oracle

The oracle stores a state without fields, in which old releases kept the administrator.
`migrate` is the migration that all contracts share, so an oracle keeps its prices and its
mappings through all releases, and after them it is still a log
(`migrated_oracle_refines_log`).
-/

namespace DemocratizedPrime.PriceOracle

open Result Transitions

/-- `CONTRACT_NAME`. -/
def contractName : String := "democratized_prime_price_oracle"

/-- Reserved for future fields. -/
structure ContractStateV1
deriving DecidableEq

/-- What is stored of an oracle: its state, and the mappings with the prices. -/
abbrev StoredOracle : Type :=
  PlainStore ContractStateV1 (Std.ExtTreeMap String AssetMappingV1 × Std.ExtTreeMap String PriceV1)

/-- The oracle of what is stored; its own state has no fields that the code reads. -/
def assemble (_ : ContractStateV1)
    (books : Std.ExtTreeMap String AssetMappingV1 × Std.ExtTreeMap String PriceV1)
    (ownership : Ownership) : OracleStorage where
  ownership
  assetMappings := books.1
  prices := books.2

/-- The oracle that the running code reads. -/
def StoredOracle.load (store : StoredOracle) : ContractResult OracleStorage :=
  PlainStore.load assemble store

/-- How this code stores an oracle. -/
def OracleStorage.save (oracle : OracleStorage) (version : ContractVersion) : StoredOracle where
  version
  state := ⟨none, ⟨⟩⟩
  ownership := some oracle.ownership
  rest := (oracle.assetMappings, oracle.prices)

theorem OracleStorage.load_save (oracle : OracleStorage) (version : ContractVersion) :
    StoredOracle.load (oracle.save version) = .ok oracle :=
  rfl

/-- `migrate`: the version check, and the move of a legacy owner. -/
def migrate (V : Type) [LinearOrder V] [SemVer V] (deps : Deps) (contractVersion : String)
    (store : StoredOracle) : MigrateResult (StoredOracle × List (String × String)) :=
  migratePlain V contractName deps contractVersion store

/-- The oracle and its releases. -/
def oracleReleases (V : Type) [LinearOrder V] [SemVer V] :
    Releasable StoredOracle OracleStorage OracleCall Unit :=
  plainReleases V contractName assemble OracleStep

section

variable {V : Type} [LinearOrder V] [SemVer V] {deps : Deps} {contractVersion : String}
  {old store store' : StoredOracle} {attributes : List (String × String)}
  {ts : List (Transition StoredOracle (LifeEvent OracleCall Unit))}

/-- The price of an asset in an oracle that older code left behind is the latest one that
was published since, whatever releases were installed in between, or the one that was there,
and so it is with the mappings.  The owner of the time published all of them. -/
theorem migrated_oracle_refines_log
    (h : migrate V deps contractVersion old = .ok (store, attributes))
    (run : Run (LifeStep (oracleReleases V)) store ts store') :
    (∃ ownership us s, Recovered deps old.state.admin old.ownership ownership ∧
      StoredOracle.load store = .ok (assemble old.state.state old.rest ownership) ∧
      Run OracleStep (assemble old.state.state old.rest ownership) us s ∧
      us.map (·.label) = messages ts ∧ StoredOracle.load store' = .ok s ∧
      (∀ id, s.prices[id]? = (latest (publishedIn (messages ts)) id).or old.rest.2[id]?) ∧
      (∀ id, s.assetMappings[id]? =
        (latest (mappedIn (messages ts)) id).elim old.rest.1[id]? fun m => m) ∧
      ∀ u ∈ us, ∀ id price, (id, price) ∈ u.label.published →
        Publication u.pre u.label price) ∧
    Rising V (old.version.version :: contractVersion :: releases ts) := by
  obtain ⟨⟨ownership, us, s, howner, hload, hrun, hload', hlabels⟩, hrising⟩ :=
    migratePlain_lifetime h run
  refine ⟨⟨ownership, us, s, howner, hload, hrun, hlabels, hload', fun id => ?_, fun id => ?_,
    fun u hu id price hp => (hrun.isStep u hu).publication hp⟩, hrising⟩
  · rw [hrun.latest_eq (T := fun (s : OracleStorage) id => s.prices[id]?)
      (fun _ _ _ h => h.prices_eq) id, ← hlabels, publishedIn, List.flatMap_map]
    cases latest (us.flatMap fun u => u.label.published) id <;> rfl
  · rw [hrun.latest_eq (T := fun (s : OracleStorage) id => s.assetMappings[id]?)
      (fun _ _ _ h => h.assetMappings_eq) id, ← hlabels, mappedIn, List.flatMap_map]
    rfl

end

namespace Demo

/-- An oracle as code that knew an administrator would have left it, with a mapping and a
price. -/
def leftBehind : StoredOracle where
  version := ⟨contractName, "0.9.0"⟩
  state := ⟨some "owner", ⟨⟩⟩
  ownership := none
  rest := ((∅ : Std.ExtTreeMap String AssetMappingV1).insert "nbtc" ⟨"BTC", 9, 30⟩,
    (∅ : Std.ExtTreeMap String PriceV1).insert "BTC" ⟨dollars 100000, 1700000000⟩)

/-- What the owner does after the migration. -/
def publishAgain : OracleCall := oracleCall (.updateAssetPrices [⟨"BTC", dollars 101000, none⟩])

/-- The migrated oracle takes a price from the owner that its old state named. -/
def leftBehindCheck : Bool :=
  match migrate DemocratizedPrime.Demo.Version oracleDeps "1.0.0" leftBehind with
  | .error _ => false
  | .ok (store, _) =>
    match StoredOracle.load store with
    | .error _ => false
    | .ok oracle =>
      (execute publishAgain.deps oracle publishAgain.env publishAgain.info publishAgain.msg).isOk

end Demo

theorem migrated_oracle_refines_log_republished :
    ∃ (store₀ store : StoredOracle)
      (ts : List (Transition StoredOracle (LifeEvent OracleCall Unit))) (s : OracleStorage),
      Run (LifeStep (oracleReleases DemocratizedPrime.Demo.Version)) store₀ ts store ∧
      messages ts = [Demo.publishAgain] ∧ StoredOracle.load store = .ok s ∧
      s.prices["BTC"]?.map (·.priceUsd) = some (Demo.dollars 101000) ∧
      s.assetMappings["nbtc"]? = some ⟨"BTC", 9, 30⟩ := by
  have hcheck : Demo.leftBehindCheck = true := by decide +kernel
  unfold Demo.leftBehindCheck at hcheck
  split at hcheck
  · cases hcheck
  · rename_i store₀ attributes hmigrate
    split at hcheck
    · cases hcheck
    · rename_i oracle₁ hload
      obtain ⟨⟨oracle₂, response⟩, hpublish⟩ := isOk_iff.mp hcheck
      have hlife := Run.single (LifeStep.message
        (c := oracleReleases DemocratizedPrime.Demo.Version) (e := Demo.publishAgain) hload
        ⟨response, hpublish⟩ (oracle₂.load_save store₀.version) rfl)
      obtain ⟨⟨ownership, us, s, -, -, -, -, hstore, hprices, hmappings, -⟩, -⟩ :=
        migrated_oracle_refines_log hmigrate hlife
      refine ⟨store₀, _, _, s, hlife, rfl, hstore, ?_, ?_⟩
      · rw [hprices]
        rfl
      · rw [hmappings]
        exact Std.ExtTreeMap.getElem?_insert_self

end DemocratizedPrime.PriceOracle
