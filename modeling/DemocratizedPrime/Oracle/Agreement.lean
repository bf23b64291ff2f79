import DemocratizedPrime.Oracle.Queries
import DemocratizedPrime.Lib.Replay

/-!
# Runs of the price oracle

An oracle starts empty, and every message either stores prices, or stores and removes
mappings, or changes the owner (`OracleStep.effect`).

The two price queries agree in all states of a run exactly when every message of the run
satisfies `KeepsCoherent` (`queries_agree_iff`): no mapping is saved for an id whose stored
price differs from that of the asset it is mapped to, and no price update pulls the two
apart.  The messages do not check it.  In `Demo.splitRun` an id that is mapped to `BTC` gets a
price of its own.
-/

namespace DemocratizedPrime.PriceOracle

open Result TreeMap Transitions

/-! ## What a message does -/

/-- A message to the oracle, with the host that validates its addresses and the block that runs
it. -/
structure OracleCall where
  deps : Deps
  env : Env
  info : MessageInfo
  msg : ExecuteMsg

/-- A message that succeeds.  The host reverts every other one. -/
def OracleStep (s : OracleStorage) (call : OracleCall) (s' : OracleStorage) : Prop :=
  ∃ res, execute call.deps s call.env call.info call.msg = .ok (s', res)

theorem validateNameUniqueness_nodup {names : List String} {u : Unit}
    (h : validateNameUniqueness names = .ok u) : names.Nodup := by
  simp only [validateNameUniqueness, bind_eq_ok, pure_eq_ok] at h
  obtain ⟨seen, hseen, -⟩ := h
  have hloop := foldlM_ok_induct
    (fun done (seen : List String) => (∀ name, name ∈ seen ↔ name ∈ done) ∧ done.Nodup)
    (fun done name seen seen' hdone hround => by
      simp only [checkNameUnseen, bind_eq_ok, ensure_eq_ok, exists_const, pure_eq_ok] at hround
      obtain ⟨hunseen, rfl⟩ := hround
      obtain ⟨hsame, hnodup⟩ := hdone
      have hnew : name ∉ done := by
        rw [← hsame]
        simpa using hunseen
      refine ⟨fun a => ?_, ?_⟩
      · rw [List.mem_cons, List.mem_append, List.mem_singleton, hsame a]
        exact or_comm
      · exact List.nodup_append.mpr ⟨hnodup, List.nodup_singleton name, fun a ha b hb heq =>
          hnew (List.mem_singleton.mp hb ▸ heq ▸ ha)⟩) (by simp) hseen
  exact hloop.2

section

variable {s s' : OracleStorage} {env : Env} {updates : List PriceUpdateV1}
  {toUpdate : List SaveAssetMappingRequestV1}

/-- The prices after the updates. -/
def savePrices (env : Env) (updates : List PriceUpdateV1) (prices : Std.ExtTreeMap String PriceV1) :
    Std.ExtTreeMap String PriceV1 :=
  updates.foldl (fun prices u => prices.insert u.asset (PriceV1.ofUpdate env u)) prices

/-- What the loop over the mapping updates leaves in the map of the mappings. -/
def saveMappings (toUpdate : List SaveAssetMappingRequestV1)
    (mappings : Std.ExtTreeMap String AssetMappingV1) : Std.ExtTreeMap String AssetMappingV1 :=
  toUpdate.foldl (fun mappings r => mappings.insert r.altAssetId r.mapping) mappings

/-- The loop over the updates saves their prices. -/
theorem updateAssetPrice_foldlM {u u' : PriceUpdates}
    (h : updates.foldlM (updateAssetPrice env) u = .ok u') :
    u'.store = { u.store with prices := savePrices env updates u.store.prices } := by
  induction updates generalizing u with
  | nil =>
    rw [List.foldlM_nil, pure_eq_ok] at h
    rw [← h]
    rfl
  | cons update rest ih =>
    rw [List.foldlM_cons, bind_eq_ok] at h
    obtain ⟨mid, hround, hrest⟩ := h
    have hstore : mid.store =
        u.store.saveUsdPriceV1 update.asset (PriceV1.ofUpdate env update) := by
      simp only [updateAssetPrice, bind_eq_ok, pure_eq_ok] at hround
      obtain ⟨previous, -, _, -, response, -, rfl⟩ := hround
      rfl
    rw [ih hrest, hstore]
    rfl

/-- The loop over the mappings validates and saves them. -/
theorem updateAssetMapping_foldlM (h : toUpdate.foldlM updateAssetMapping s = .ok s') :
    s' = { s with assetMappings := saveMappings toUpdate s.assetMappings } ∧
      ∀ r ∈ toUpdate, r.mapping.precision.val ≤ maxAssetMappingPrecision := by
  induction toUpdate generalizing s with
  | nil =>
    rw [List.foldlM_nil, pure_eq_ok] at h
    rw [← h]
    exact ⟨rfl, by simp⟩
  | cons request rest ih =>
    rw [List.foldlM_cons, bind_eq_ok] at h
    obtain ⟨mid, hround, hrest⟩ := h
    simp only [updateAssetMapping, SaveAssetMappingRequestV1.validate, AssetMappingV1.validate,
      bind_eq_ok, ensure_eq_ok, exists_const, pure_eq_ok] at hround
    obtain ⟨⟨-, -, hprecision⟩, rfl⟩ := hround
    obtain ⟨rfl, hvalid⟩ := ih hrest
    exact ⟨rfl, List.forall_mem_cons.mpr ⟨hprecision, hvalid⟩⟩

/-- The loop over the mappings to remove erases them. -/
theorem removeAssetMapping_foldl (toRemove : List String) (s : OracleStorage) :
    toRemove.foldl OracleStorage.removeAssetMappingV1 s =
      { s with assetMappings := toRemove.foldl (fun m a => m.erase a) s.assetMappings } := by
  induction toRemove generalizing s with
  | nil => rfl
  | cons a rest ih =>
    rw [List.foldl_cons, ih]
    rfl

/-- What a message that succeeds has done. -/
inductive OracleEffect (s : OracleStorage) (env : Env) : ExecuteMsg → OracleStorage → Prop
  | updateOwnership (action : OwnershipAction) (ownership : Ownership) :
      OracleEffect s env (.updateOwnership action) { s with ownership }
  | updateAssetPrices (updates : List PriceUpdateV1) (distinct : (updates.map (·.asset)).Nodup) :
      OracleEffect s env (.updateAssetPrices updates)
        { s with prices := savePrices env updates s.prices }
  | updateAssetMappings (toUpdate : List SaveAssetMappingRequestV1) (toRemove : List String)
      (distinct : (toUpdate.map (·.altAssetId)).Nodup)
      (valid : ∀ r ∈ toUpdate, r.mapping.precision.val ≤ maxAssetMappingPrecision) :
      OracleEffect s env (.updateAssetMappings toUpdate toRemove)
        { s with assetMappings := saveMappings toUpdate
                   (toRemove.foldl (fun m a => m.erase a) s.assetMappings) }

theorem OracleStep.effect {call : OracleCall} (h : OracleStep s call s') :
    OracleEffect s call.env call.msg s' := by
  obtain ⟨res, h⟩ := h
  simp only [execute, bind_eq_ok, ensure_eq_ok, exists_const] at h
  obtain ⟨-, h⟩ := h
  cases hm : call.msg with
  | updateOwnership action =>
    rw [hm] at h
    simp only [updateOwnership, bind_eq_ok, pure_eq_ok, Prod.mk.injEq] at h
    obtain ⟨ownership, -, rfl, -⟩ := h
    exact .updateOwnership action ownership
  | updateAssetPrices updates =>
    rw [hm] at h
    simp only [tryUpdateAssetPrices, bind_eq_ok, pure_eq_ok, Prod.mk.injEq] at h
    obtain ⟨_, -, _, hdistinct, u, hloop, rfl, -⟩ := h
    rw [updateAssetPrice_foldlM hloop]
    exact .updateAssetPrices updates (validateNameUniqueness_nodup hdistinct)
  | updateAssetMappings toUpdate toRemove =>
    rw [hm] at h
    simp only [tryUpdateAssetMappings, bind_eq_ok, pure_eq_ok, Prod.mk.injEq] at h
    obtain ⟨_, -, _, hdistinct, saved, hloop, rfl, -⟩ := h
    rw [removeAssetMapping_foldl] at hloop
    obtain ⟨rfl, hvalid⟩ := updateAssetMapping_foldlM hloop
    exact .updateAssetMappings toUpdate toRemove (validateNameUniqueness_nodup hdistinct) hvalid

/-! ## The stores after a message -/

/-- The price of an id after the updates: its update, or what is stored. -/
def priceAfter (s : OracleStorage) (env : Env) (updates : List PriceUpdateV1) (id : String) :
    Option PriceV1 :=
  ((updates.find? fun u => decide (u.asset = id)).map (PriceV1.ofUpdate env)).or s.prices[id]?

theorem savePrices_getElem? (hdistinct : (updates.map (·.asset)).Nodup) (id : String) :
    (savePrices env updates s.prices)[id]? = priceAfter s env updates id :=
  getElem?_foldl_insert hdistinct s.prices id

theorem saveMappings_getElem? {mappings : Std.ExtTreeMap String AssetMappingV1}
    (hdistinct : (toUpdate.map (·.altAssetId)).Nodup) (id : String) :
    (saveMappings toUpdate mappings)[id]? =
      ((toUpdate.find? fun r => decide (r.altAssetId = id)).map (·.mapping)).or mappings[id]? :=
  getElem?_foldl_insert hdistinct mappings id

/-- A mapping is one of those that were saved, or it was there. -/
theorem saveMappings_cases {mappings : Std.ExtTreeMap String AssetMappingV1}
    (hdistinct : (toUpdate.map (·.altAssetId)).Nodup) {id : String} {m : AssetMappingV1}
    (h : (saveMappings toUpdate mappings)[id]? = some m) :
    (∃ r ∈ toUpdate, r.altAssetId = id ∧ r.mapping = m) ∨ mappings[id]? = some m := by
  rw [saveMappings_getElem? hdistinct, Option.or_eq_some_iff, Option.map_eq_some_iff] at h
  rcases h with ⟨r, hr, hm⟩ | ⟨-, hold⟩
  · exact Or.inl ⟨r, List.mem_of_find?_eq_some hr, by simpa using List.find?_some hr, hm⟩
  · exact Or.inr hold

theorem saveMappings_of_mem {mappings : Std.ExtTreeMap String AssetMappingV1}
    (hdistinct : (toUpdate.map (·.altAssetId)).Nodup) {r : SaveAssetMappingRequestV1}
    (hr : r ∈ toUpdate) : (saveMappings toUpdate mappings)[r.altAssetId]? = some r.mapping := by
  rw [saveMappings_getElem? hdistinct, find?_key_eq_some hdistinct hr]
  rfl

theorem wellFormed_instantiate {deps : Deps} {owner : String} {res : OracleResponse}
    (h : instantiate deps owner = .ok (s, res)) : WellFormed s ∧ Coherent s := by
  simp only [instantiate, bind_eq_ok, pure_eq_ok, Prod.mk.injEq] at h
  obtain ⟨_, -, rfl, -⟩ := h
  refine ⟨⟨fun id m hm => ?_, fun id p hp => ?_⟩, fun id p m hp _ => ?_⟩
  · simp at hm
  · simp at hp
  · simp at hp

theorem seconds_lt (time : Timestamp) : time.seconds < 2 ^ 63 := by
  have hnanos := time.nanos.isLt
  unfold Timestamp.seconds
  omega

theorem priceAfter_seconds_lt (hs : WellFormed s) {id : String} {p : PriceV1}
    (hp : priceAfter s env updates id = some p) : p.asOfEpochSecond < 2 ^ 63 := by
  unfold priceAfter at hp
  rw [Option.or_eq_some_iff, Option.map_eq_some_iff] at hp
  rcases hp with ⟨update, -, rfl⟩ | ⟨-, hold⟩
  · exact seconds_lt _
  · exact hs.prices id p hold

theorem OracleEffect.wellFormed {msg : ExecuteMsg} (h : OracleEffect s env msg s')
    (hs : WellFormed s) : WellFormed s' := by
  cases h with
  | updateOwnership action ownership => exact ⟨hs.mappings, hs.prices⟩
  | updateAssetPrices updates distinct =>
    refine ⟨hs.mappings, fun id p hp => ?_⟩
    rw [savePrices_getElem? distinct] at hp
    exact priceAfter_seconds_lt hs hp
  | updateAssetMappings toUpdate toRemove distinct valid =>
    refine ⟨fun id m hm => ?_, hs.prices⟩
    rcases saveMappings_cases distinct hm with ⟨r, hr, -, rfl⟩ | hkept
    · exact valid r hr
    · exact hs.mappings id m (getElem?_of_foldl_erase hkept)

/-! ## Messages that keep the state coherent -/

/-- A message stores no price and no mapping that make a mapped id differ from its asset. -/
def KeepsCoherent (s : OracleStorage) (call : OracleCall) : Prop :=
  match call.msg with
  | .updateOwnership _ => True
  | .updateAssetPrices updates => ∀ (id : String) (m : AssetMappingV1) (p : PriceV1),
      s.assetMappings[id]? = some m → priceAfter s call.env updates id = some p →
        priceAfter s call.env updates m.assetId = some p
  | .updateAssetMappings toUpdate _ => ∀ r ∈ toUpdate, ∀ p : PriceV1,
      s.prices[r.altAssetId]? = some p → s.prices[r.mapping.assetId]? = some p

/-- In a coherent state, the message keeps it so exactly if it satisfies `KeepsCoherent`. -/
theorem OracleStep.coherent_iff {call : OracleCall} (h : OracleStep s call s')
    (hs : Coherent s) : Coherent s' ↔ KeepsCoherent s call := by
  have heffect := h.effect
  unfold KeepsCoherent
  generalize call.msg = msg at heffect ⊢
  cases heffect with
  | updateOwnership action ownership => exact ⟨fun _ => trivial, fun _ => hs⟩
  | updateAssetPrices updates distinct =>
    constructor
    · intro hs' id m p hm hp
      have hpost := hs' id p m
      simp only [savePrices_getElem? distinct] at hpost
      exact hpost hp hm
    · intro hkeeps id p m hp hm
      simp only [savePrices_getElem? distinct] at hp ⊢
      exact hkeeps id m p hm hp
  | updateAssetMappings toUpdate toRemove distinct valid =>
    constructor
    · intro hs' r hr p hp
      exact hs' r.altAssetId p r.mapping hp (saveMappings_of_mem distinct hr)
    · intro hkeeps id p m hp hm
      rcases saveMappings_cases distinct hm with ⟨r, hr, rfl, rfl⟩ | hkept
      · exact hkeeps r hr p hp
      · -- A mapping that is left was there before, and the prices are the same.
        exact hs id p m hp (getElem?_of_foldl_erase hkept)

end

/-! ## Runs -/

theorem OracleStep.wellFormed {s s' : OracleStorage} {call : OracleCall}
    (h : OracleStep s call s') (hs : WellFormed s) : WellFormed s' :=
  h.effect.wellFormed hs

/-- In every run of an oracle from its instantiation, the two queries agree in all states
exactly if every message satisfies `KeepsCoherent`. -/
theorem queries_agree_iff {deps : Deps} {owner : String} {res : OracleResponse}
    {s₀ s : OracleStorage} {ts : List (Transition OracleStorage OracleCall)}
    (hstart : instantiate deps owner = .ok (s₀, res)) (run : Run OracleStep s₀ ts s) :
    (QueriesAgree s₀ ∧ ∀ t ∈ ts, QueriesAgree t.post) ↔
      ∀ t ∈ ts, KeepsCoherent t.pre t.label := by
  obtain ⟨hwell, hcoherent⟩ := wellFormed_instantiate hstart
  have hposts : ∀ t ∈ ts, WellFormed t.post := fun t ht =>
    (run.isStep t ht).wellFormed (run.invariant_pre (fun _ _ _ hs h => h.wellFormed hs) hwell t ht)
  have hstep : ∀ s call s', WellFormed s ∧ Coherent s → OracleStep s call s' →
      (WellFormed s' ∧ Coherent s' ↔ KeepsCoherent s call) := by
    intro s call s' hs h
    rw [← h.coherent_iff hs.2]
    exact and_iff_right (h.wellFormed hs.1)
  calc (QueriesAgree s₀ ∧ ∀ t ∈ ts, QueriesAgree t.post)
      ↔ ∀ t ∈ ts, QueriesAgree t.post := and_iff_right hcoherent.queriesAgree
    _ ↔ ∀ t ∈ ts, WellFormed t.post ∧ Coherent t.post :=
        forall₂_congr fun t ht => by
          rw [queriesAgree_iff (hposts t ht), and_iff_right (hposts t ht)]
    _ ↔ ∀ t ∈ ts, KeepsCoherent t.pre t.label :=
        run.invariant_iff_of_transitions (I := fun s => WellFormed s ∧ Coherent s)
          (P := fun t => KeepsCoherent t.pre t.label) hstep ⟨hwell, hcoherent⟩

namespace Demo

/-- Addresses are always valid.  The oracle asks nothing else. -/
def oracleDeps : Deps where
  addrError _ := none
  oraclePrice _ _ := .ok none
  attributeNames _ _ := .ok []
  scan _ _ _ := .ok ⟨[], none⟩
  balance _ _ := .ok 0
  scaledBalance _ _ := .ok 0

/-- A block. -/
def oracleEnv : Env where
  blockTime := ⟨⟨1700000000000000000, by decide⟩⟩
  blockHeight := 1
  contractAddress := "oracle"

/-- A message of the owner. -/
def oracleCall (msg : ExecuteMsg) : OracleCall := ⟨oracleDeps, oracleEnv, ⟨"owner", []⟩, msg⟩

/-- `n` dollars. -/
def dollars (n : Nat) : Decimal256 := ⟨n * decimalFractional % 2 ^ 256, Nat.mod_lt _ (by decide)⟩

/-- The oracle after its instantiation. -/
def deployed : OracleStorage := ⟨Ownership.initializeOwner "owner", ∅, ∅⟩

/-- An id is mapped to `BTC`. -/
def mapNbtc : OracleCall := oracleCall (.updateAssetMappings [⟨"nbtc", ⟨"BTC", 9, 30⟩⟩] [])

/-- `BTC` gets a price, and the id that is mapped to it gets none. -/
def mappedRun : List OracleCall :=
  [mapNbtc, oracleCall (.updateAssetPrices [⟨"BTC", dollars 100000, none⟩])]

/-- Both get a price. -/
def splitRun : List OracleCall :=
  [mapNbtc, oracleCall (.updateAssetPrices
    [⟨"BTC", dollars 100000, none⟩, ⟨"nbtc", dollars 1, none⟩])]

/-- The display prices of `nbtc`, on the first page and in the answer for it. -/
def nbtcPrices (s : OracleStorage) : Option Decimal256 × Option Decimal256 :=
  (match queryPricesBatch s none 10 with
    | .ok page => page["nbtc"]?.map (·.displayPriceUsd)
    | .error _ => none,
   match queryPricesByAssets s ["nbtc"] false with
    | .ok answer => answer["nbtc"]?.map (·.displayPriceUsd)
    | .error _ => none)

/-- The transitions of a list of calls, if all of them succeed. -/
def replayOracle : OracleStorage → List OracleCall →
    ContractResult (List (Transition OracleStorage OracleCall) × OracleStorage) :=
  replay (fun s c => execute c.deps s c.env c.info c.msg) fun c _ => c

/-- The calls run, and `nbtc` has these prices at the end. -/
def endsWith (calls : List OracleCall) (prices : Option Decimal256 × Option Decimal256) : Bool :=
  match replayOracle deployed calls with
  | .ok (_, s) => decide (nbtcPrices s = prices)
  | .error _ => false

theorem exists_run {calls : List OracleCall} {prices : Option Decimal256 × Option Decimal256}
    (h : endsWith calls prices = true) : ∃ ts s, Run OracleStep deployed ts s ∧
      ts.map (fun t => t.label) = calls ∧ nbtcPrices s = prices := by
  unfold endsWith at h
  split at h
  · rename_i ts s hreplay
    have hrun : Run OracleStep deployed ts s ∧ ts.map (fun t => t.label) = calls :=
      replay_run (fun _ _ => rfl) (fun _ _ _ _ h => ⟨_, h⟩) hreplay
    exact ⟨ts, s, hrun.1, hrun.2, of_decide_eq_true h⟩
  · cases h

theorem mappedRun_ends : endsWith mappedRun (none, some (dollars 100000)) = true := by
  decide +kernel

theorem splitRun_ends :
    endsWith splitRun (some (dollars 1), some (dollars 100000)) = true := by
  decide +kernel

/-- Two prices that are shown stand in a page and in an answer. -/
theorem nbtcPrices_eq_some {s : OracleStorage} {onPage inAnswer : Decimal256}
    (h : nbtcPrices s = (some onPage, some inAnswer)) :
    ∃ (page answer : PriceMap) (entry entry' : AssetPriceResponseV1),
      queryPricesBatch s none 10 = .ok page ∧ page["nbtc"]? = some entry ∧
      queryPricesByAssets s ["nbtc"] false = .ok answer ∧ answer["nbtc"]? = some entry' ∧
      entry.displayPriceUsd = onPage ∧ entry'.displayPriceUsd = inAnswer := by
  unfold nbtcPrices at h
  obtain ⟨hfirst, hsecond⟩ := Prod.mk.inj h
  split at hfirst
  · rename_i page hpage
    split at hsecond
    · rename_i answer hanswer
      obtain ⟨entry, hentry, hprice⟩ := Option.map_eq_some_iff.mp hfirst
      obtain ⟨entry', hentry', hprice'⟩ := Option.map_eq_some_iff.mp hsecond
      exact ⟨page, answer, entry, entry', hpage, hentry, hanswer, hentry', hprice, hprice'⟩
    · cases hsecond
  · cases hfirst

end Demo

theorem queries_agree_iff_mappedRun :
    ∃ (ts : List (Transition OracleStorage OracleCall)) (s : OracleStorage),
      ts.map (fun t => t.label) = Demo.mappedRun ∧
        Demo.nbtcPrices s = (none, some (Demo.dollars 100000)) ∧
        ((QueriesAgree Demo.deployed ∧ ∀ t ∈ ts, QueriesAgree t.post) ↔
          ∀ t ∈ ts, KeepsCoherent t.pre t.label) := by
  obtain ⟨ts, s, run, hcalls, hprices⟩ := Demo.exists_run Demo.mappedRun_ends
  have hstart : instantiate Demo.oracleDeps "owner" =
      .ok (Demo.deployed, ⟨[("action", .text "instantiate")]⟩) := rfl
  exact ⟨ts, s, hcalls, hprices, queries_agree_iff hstart run⟩

/-- The page shows `nbtc` at its own price, and the answer at that of `BTC`. -/
theorem queries_disagree_splitRun :
    ∃ (res : OracleResponse) (ts : List (Transition OracleStorage OracleCall))
      (s : OracleStorage) (page answer : PriceMap) (entry entry' : AssetPriceResponseV1),
      instantiate Demo.oracleDeps "owner" = .ok (Demo.deployed, res) ∧
      Run OracleStep Demo.deployed ts s ∧ ts.map (fun t => t.label) = Demo.splitRun ∧
      queryPricesBatch s none 10 = .ok page ∧ page["nbtc"]? = some entry ∧
      queryPricesByAssets s ["nbtc"] false = .ok answer ∧ answer["nbtc"]? = some entry' ∧
      entry.displayPriceUsd = Demo.dollars 1 ∧ entry'.displayPriceUsd = Demo.dollars 100000 ∧
      ¬QueriesAgree s := by
  obtain ⟨ts, s, run, hcalls, hprices⟩ := Demo.exists_run Demo.splitRun_ends
  obtain ⟨page, answer, entry, entry', hpage, hentry, hanswer, hentry', hprice, hprice'⟩ :=
    Demo.nbtcPrices_eq_some hprices
  refine ⟨_, ts, s, page, answer, entry, entry', rfl, run, hcalls, hpage, hentry, hanswer,
    hentry', hprice, hprice', fun hagree => ?_⟩
  have hsame := (hagree none 10 page "nbtc" entry hpage hentry).2 ["nbtc"] false answer
    (List.mem_singleton_self _) hanswer
  rw [hentry', Option.some.injEq] at hsame
  have hequal : Demo.dollars 100000 = Demo.dollars 1 := by rw [← hprice, ← hprice', hsame]
  exact absurd hequal (by decide)

end DemocratizedPrime.PriceOracle
