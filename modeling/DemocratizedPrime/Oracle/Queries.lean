import DemocratizedPrime.Oracle.Contract

/-!
# What the oracle answers

The two queries build their maps differently.  An answer of `queryPricesByAssets` holds
`quoted` for each id that was asked for (`queryPricesByAssets_getElem?`), and `quoted` follows
the mapping of the id.  A page of `queryPricesBatch` holds the prices that are stored under
their own ids (`queryPricesBatch_getElem?`), and every stored price is on some page
(`WellFormed.exists_page`).

So they agree exactly on the states in which a price stored under a mapped id is the price
of the asset that the id is mapped to (`queriesAgree_iff`).

`ReadsOracle` says that a host answers the pool's price queries as this contract does.
-/

namespace DemocratizedPrime.PriceOracle

open Result TreeMap

section

variable {s : OracleStorage} {id : String}

/-! ## Entries -/

/-- The mapping that an id is shown with. -/
def OracleStorage.metadata (s : OracleStorage) (id : String) : AssetMappingV1 :=
  (s.getOrDefaultAssetMappingV1 id).2

theorem metadata_of_mapped {m : AssetMappingV1} (h : s.assetMappings[id]? = some m) :
    s.metadata id = m := by
  unfold OracleStorage.metadata OracleStorage.getOrDefaultAssetMappingV1
    OracleStorage.tryGetAssetMappingV1
  rw [h]

theorem metadata_of_unmapped (h : s.assetMappings[id]? = none) :
    s.metadata id = AssetMappingV1.default id := by
  unfold OracleStorage.metadata OracleStorage.getOrDefaultAssetMappingV1
    OracleStorage.tryGetAssetMappingV1
  rw [h]

/-- What a mapping and a price are shown as. -/
theorem intoResponse_spec {m : AssetMappingV1} {p : PriceV1} {r : AssetPriceResponseV1}
    (h : intoResponse m p = .ok r) :
    r.displayPriceUsd = p.priceUsd ∧ r.precision = m.precision.val ∧
      r.asOfEpochSecond = p.asOfEpochSecond ∧
      r.expirationEpochSeconds = p.asOfEpochSecond + m.stalenessThresholdSeconds.val := by
  simp only [intoResponse, bind_eq_ok, ensure_eq_ok, exists_const, pure_eq_ok] at h
  obtain ⟨scaled, -, -, rfl⟩ := h
  exact ⟨rfl, rfl, rfl, rfl⟩

/-- A price can be read off an entry. -/
theorem intoResponse_price_unique {m : AssetMappingV1} {p p' : PriceV1} {r : AssetPriceResponseV1}
    (h : intoResponse m p = .ok r) (h' : intoResponse m p' = .ok r) : p = p' := by
  obtain ⟨hprice, -, htime, -⟩ := intoResponse_spec h
  obtain ⟨hprice', -, htime', -⟩ := intoResponse_spec h'
  cases p
  cases p'
  rw [PriceV1.mk.injEq]
  exact ⟨hprice.symm.trans hprice', htime.symm.trans htime'⟩

/-- A price is scaled down by a power of ten of up to 18 digits. -/
theorem isOk_scalePrice (price : Decimal256) {precision : Nat}
    (h : precision ≤ maxAssetMappingPrecision) : IsOk (scalePrice price precision) := by
  unfold maxAssetMappingPrecision at h
  have hpow : 10 ^ precision ≤ 10 ^ 18 := Nat.pow_le_pow_right (by decide) h
  have hpos : 0 < 10 ^ precision := Nat.pow_pos (by decide)
  have hfits : 10 ^ precision * decimalFractional < 2 ^ 256 :=
    Nat.lt_of_le_of_lt (Nat.mul_le_mul_right _ hpow) (by decide)
  obtain ⟨divisor, hdivisor, hatomics⟩ := Decimal256.checkedPow_whole (a := ten) (m := 10)
    (by decide) rfl (by omega) hfits
  refine IsOk.bind hdivisor (Decimal256.isOk_checkedDiv_iff.mpr ?_)
  rw [hatomics]
  refine ⟨Nat.ne_of_gt (Nat.mul_pos hpos (by decide)), ?_⟩
  rw [Nat.mul_div_mul_right _ _ (by decide)]
  exact Nat.lt_of_le_of_lt (Nat.div_le_self _ _) price.isLt

/-! ## Well-formed states -/

/-- What is stored passed its check: the precisions are bounded, and the times are seconds
of a `u64` of nanoseconds. -/
structure WellFormed (s : OracleStorage) : Prop where
  mappings : ∀ (id : String) (m : AssetMappingV1), s.assetMappings[id]? = some m →
    m.precision.val ≤ maxAssetMappingPrecision
  prices : ∀ (id : String) (p : PriceV1), s.prices[id]? = some p → p.asOfEpochSecond < 2 ^ 63

/-- Every stored price can be shown under every id. -/
theorem WellFormed.isOk_intoResponse {a : String} {p : PriceV1} (hs : WellFormed s)
    (hp : s.prices[a]? = some p) : IsOk (intoResponse (s.metadata id) p) := by
  have hprecision : (s.metadata id).precision.val ≤ maxAssetMappingPrecision := by
    cases hm : s.assetMappings[id]? with
    | none =>
      rw [metadata_of_unmapped hm]
      exact Nat.zero_le _
    | some m =>
      rw [metadata_of_mapped hm]
      exact hs.mappings id m hm
  have hexpiration :
      p.asOfEpochSecond + (s.metadata id).stalenessThresholdSeconds.val < 2 ^ 64 := by
    have htime := hs.prices a p hp
    have hthreshold := (s.metadata id).stalenessThresholdSeconds.isLt
    omega
  unfold intoResponse
  exact IsOk.bind_any (isOk_scalePrice _ hprecision) fun _ _ => IsOk.ensure hexpiration isOk_pure

/-! ## Prices by asset -/

/-- What is shown for one id: the price of the asset that it is mapped to. -/
def OracleStorage.quote (s : OracleStorage) (id : String) :
    ContractResult (Option AssetPriceResponseV1) :=
  match s.prices[(s.metadata id).assetId]? with
  | none => return none
  | some price => some <$> intoResponse (s.metadata id) price

theorem quote_eq_some_iff {r : AssetPriceResponseV1} :
    s.quote id = .ok (some r) ↔
      ∃ p, s.prices[(s.metadata id).assetId]? = some p ∧
        intoResponse (s.metadata id) p = .ok r := by
  unfold OracleStorage.quote
  cases s.prices[(s.metadata id).assetId]? with
  | none => simp [pure_eq_ok]
  | some p => simp [map_eq_ok]

/-- A round adds the quote of its id. -/
theorem addPriceByAsset_eq_ok {skip : Bool} {prices prices' : PriceMap} :
    addPriceByAsset s skip prices id = .ok prices' ↔
      (s.quote id = .ok none ∧ skip = true ∧ prices' = prices) ∨
        ∃ r, s.quote id = .ok (some r) ∧ prices' = prices.insert id r := by
  have hround : addPriceByAsset s skip prices id =
      match s.prices[(s.metadata id).assetId]? with
      | none => if skip then return prices else throw (.notFoundError (s.metadata id).assetId)
      | some price => do
        let response ← (intoResponse (s.metadata id) price).mapError .contract
        return prices.insert id response := rfl
  rw [hround]
  unfold OracleStorage.quote
  cases s.prices[(s.metadata id).assetId]? with
  | none =>
    cases skip with
    | false => simp [pure, Except.pure, throw, throwThe, MonadExceptOf.throw]
    | true => simp [pure, Except.pure, eq_comm]
  | some p =>
    simp only [bind_eq_ok, mapError_eq_ok, pure_eq_ok, map_eq_ok, reduceCtorEq, and_false,
      exists_false, false_and, false_or, Option.some.injEq, exists_eq_right]
    exact exists_congr fun r => and_congr_right fun _ => eq_comm

/-- The quote of an id, if there is one. -/
def OracleStorage.quoted (s : OracleStorage) (id : String) : Option AssetPriceResponseV1 :=
  match s.quote id with
  | .ok quote => quote
  | .error _ => none

theorem quoted_of_quote {q : Option AssetPriceResponseV1} (h : s.quote id = .ok q) :
    s.quoted id = q := by
  unfold OracleStorage.quoted
  rw [h]

/-- An answer holds the quotes of the ids that were asked for. -/
theorem queryPricesByAssets_getElem? {assets : List String} {skip : Bool} {answer : PriceMap}
    (h : queryPricesByAssets s assets skip = .ok answer) (id : String) :
    answer[id]? = if id ∈ assets then s.quoted id else none := by
  have hloop := foldlM_ok_induct
    (fun done (prices : PriceMap) => prices[id]? = if id ∈ done then s.quoted id else none)
    (fun done asset prices prices' hprices hround => by
      rcases addPriceByAsset_eq_ok.mp hround with ⟨hnone, -, rfl⟩ | ⟨r, hsome, rfl⟩
      · rw [hprices]
        by_cases ha : id = asset
        · subst ha
          simp [quoted_of_quote hnone]
        · simp [ha]
      · rw [getElem?_insert_eq]
        by_cases ha : asset = id
        · subst ha
          simp [quoted_of_quote hsome]
        · have ha' : id ≠ asset := fun heq => ha heq.symm
          rw [if_neg ha, hprices]
          simp [ha']) (by simp) h
  exact hloop

/-- A single id is answered when it has a quote. -/
theorem queryPricesByAssets_single {r : AssetPriceResponseV1} (h : s.quote id = .ok (some r)) :
    queryPricesByAssets s [id] false = .ok ((∅ : PriceMap).insert id r) := by
  have hround : addPriceByAsset s false ∅ id = .ok ((∅ : PriceMap).insert id r) :=
    addPriceByAsset_eq_ok.mpr (Or.inr ⟨r, h, rfl⟩)
  unfold queryPricesByAssets
  rw [List.foldlM_cons, hround]
  rfl

/-! ## Pages -/

/-- A round adds the entry of its own price. -/
theorem addPriceOfBatch_eq_ok {priceMap priceMap' : PriceMap} {entry : String × PriceV1} :
    addPriceOfBatch s priceMap entry = .ok priceMap' ↔
      ∃ r, intoResponse (s.metadata entry.1) entry.2 = .ok r ∧
        priceMap' = priceMap.insert entry.1 r := by
  have hround : addPriceOfBatch s priceMap entry = do
      let response ← (intoResponse (s.metadata entry.1) entry.2).mapError .contract
      return priceMap.insert entry.1 response := by
    unfold addPriceOfBatch OracleStorage.metadata OracleStorage.getOrDefaultAssetMappingV1
    cases s.tryGetAssetMappingV1 entry.1 with
    | none => rfl
    | some am => rfl
  rw [hround]
  simp only [bind_eq_ok, mapError_eq_ok, pure_eq_ok]
  exact exists_congr fun r => and_congr_right fun _ => eq_comm

theorem getSortedPricesV1_subset {prev : Option String} {limit : Uint32}
    {entry : String × PriceV1} (h : entry ∈ s.getSortedPricesV1 prev limit) :
    s.prices[entry.1]? = some entry.2 := by
  rw [← Std.ExtTreeMap.mem_toList_iff_getElem?_eq_some]
  unfold OracleStorage.getSortedPricesV1 at h
  have hmem := List.mem_of_mem_take h
  cases prev with
  | none => exact hmem
  | some a => exact List.mem_of_mem_filter hmem

/-- A page shows prices under the ids that they are stored under. -/
theorem queryPricesBatch_getElem? {prev : Option String} {limit : Uint32} {page : PriceMap}
    {r : AssetPriceResponseV1} (h : queryPricesBatch s prev limit = .ok page)
    (hr : page[id]? = some r) :
    ∃ p, s.prices[id]? = some p ∧ intoResponse (s.metadata id) p = .ok r := by
  have hloop := foldlM_ok_induct
    (fun done (priceMap : PriceMap) => ∀ a r, priceMap[a]? = some r →
      ∃ p, (a, p) ∈ done ∧ intoResponse (s.metadata a) p = .ok r)
    (fun done entry priceMap priceMap' hdone hround a r hr => by
      obtain ⟨new, hnew, rfl⟩ := addPriceOfBatch_eq_ok.mp hround
      rw [getElem?_insert_eq] at hr
      by_cases ha : entry.1 = a
      · rw [if_pos ha, Option.some.injEq] at hr
        subst ha hr
        exact ⟨entry.2, by simp, hnew⟩
      · rw [if_neg ha] at hr
        obtain ⟨p, hp, hresponse⟩ := hdone a r hr
        exact ⟨p, List.mem_append_left _ hp, hresponse⟩) (by simp) h
  obtain ⟨p, hp, hresponse⟩ := hloop id r hr
  exact ⟨p, getSortedPricesV1_subset hp, hresponse⟩

/-- A stored price is alone on the page of one entry that follows the id before it. -/
theorem exists_singleton_page {p : PriceV1} (h : s.prices[id]? = some p) :
    ∃ prev, s.getSortedPricesV1 prev 1 = [(id, p)] := by
  have hmem := Std.ExtTreeMap.mem_toList_iff_getElem?_eq_some.mpr h
  obtain ⟨before, after, hsplit⟩ := List.append_of_mem hmem
  have hsorted := Std.ExtTreeMap.ordered_keys_toList (t := s.prices)
  rw [hsplit] at hsorted
  rw [List.pairwise_append] at hsorted
  obtain ⟨hfront, -, hacross⟩ := hsorted
  rcases List.eq_nil_or_concat before with rfl | ⟨front, last, rfl⟩
  · refine ⟨none, ?_⟩
    unfold OracleStorage.getSortedPricesV1
    rw [hsplit]
    rfl
  · -- Nothing in front of the id is after `last`, and the id itself is.
    rw [List.concat_eq_append] at hsplit hfront hacross
    have hskipped : ∀ entry ∈ front ++ [last], (compare last.1 entry.1).isLT = false := by
      intro entry hentry
      rcases List.mem_append.mp hentry with hold | hlast
      · have hlt := (List.pairwise_append.mp hfront).2.2 entry hold last (List.mem_singleton_self _)
        rw [Std.OrientedCmp.gt_of_lt hlt]
        rfl
      · have hself : compare last.1 last.1 = .eq := Std.ReflCmp.compare_self
        rw [List.mem_singleton.mp hlast, hself]
        rfl
    have hnext : (compare last.1 id).isLT = true := by
      rw [hacross last (by simp) (id, p) List.mem_cons_self]
      rfl
    refine ⟨some last.1, ?_⟩
    unfold OracleStorage.getSortedPricesV1
    dsimp only
    rw [hsplit, List.filter_append, List.filter_eq_nil_iff.mpr, List.nil_append,
      List.filter_cons, if_pos hnext]
    · rfl
    · intro entry hentry
      rw [hskipped entry hentry]
      decide

theorem WellFormed.exists_page (hs : WellFormed s) {p : PriceV1} (hp : s.prices[id]? = some p) :
    ∃ prev r, intoResponse (s.metadata id) p = .ok r ∧
      queryPricesBatch s prev 1 = .ok ((∅ : PriceMap).insert id r) := by
  obtain ⟨prev, hentries⟩ := exists_singleton_page hp
  have hshown : IsOk (intoResponse (s.metadata id) p) := hs.isOk_intoResponse hp
  obtain ⟨r, hr⟩ := hshown
  have hround : addPriceOfBatch s ∅ (id, p) = .ok ((∅ : PriceMap).insert id r) :=
    addPriceOfBatch_eq_ok.mpr ⟨r, hr, rfl⟩
  refine ⟨prev, r, hr, ?_⟩
  unfold queryPricesBatch
  rw [hentries, List.foldlM_cons, hround]
  rfl

/-! ## When the queries agree -/

/-- Each entry of a page is the entry of the same id in every answer that was asked for it,
and the id alone is answered. -/
def QueriesAgree (s : OracleStorage) : Prop :=
  ∀ (prev : Option String) (limit : Uint32) (page : PriceMap) (id : String)
    (entry : AssetPriceResponseV1),
    queryPricesBatch s prev limit = .ok page → page[id]? = some entry →
      (∃ answer, queryPricesByAssets s [id] false = .ok answer) ∧
      ∀ (assets : List String) (skipMissing : Bool) (answer : PriceMap), id ∈ assets →
        queryPricesByAssets s assets skipMissing = .ok answer → answer[id]? = some entry

/-- A price that is stored under a mapped id is the price of the asset it is mapped to. -/
def Coherent (s : OracleStorage) : Prop :=
  ∀ (id : String) (p : PriceV1) (m : AssetMappingV1), s.prices[id]? = some p →
    s.assetMappings[id]? = some m → s.prices[m.assetId]? = some p

/-- Then the price that an id is shown with is the one that is stored under it. -/
theorem Coherent.quote_eq (h : Coherent s) {p : PriceV1} {r : AssetPriceResponseV1}
    (hp : s.prices[id]? = some p) (hr : intoResponse (s.metadata id) p = .ok r) :
    s.quote id = .ok (some r) := by
  refine quote_eq_some_iff.mpr ⟨p, ?_, hr⟩
  cases hm : s.assetMappings[id]? with
  | none =>
    rw [metadata_of_unmapped hm]
    exact hp
  | some m =>
    rw [metadata_of_mapped hm]
    exact h id p m hp hm

theorem Coherent.queriesAgree (h : Coherent s) : QueriesAgree s := by
  intro prev limit page id entry hpage hentry
  obtain ⟨p, hp, hr⟩ := queryPricesBatch_getElem? hpage hentry
  have hquote := h.quote_eq hp hr
  refine ⟨⟨_, queryPricesByAssets_single hquote⟩, fun assets skip answer hid hanswer => ?_⟩
  rw [queryPricesByAssets_getElem? hanswer, if_pos hid, quoted_of_quote hquote]

theorem QueriesAgree.coherent (h : QueriesAgree s) (hs : WellFormed s) : Coherent s := by
  intro id p m hp hm
  obtain ⟨prev, r, hr, hpage⟩ := hs.exists_page hp
  obtain ⟨⟨answer, hanswer⟩, hentry⟩ := h prev 1 _ id r hpage Std.ExtTreeMap.getElem?_insert_self
  have hquoted := hentry [id] false answer (List.mem_singleton_self _) hanswer
  rw [queryPricesByAssets_getElem? hanswer, if_pos (List.mem_singleton_self _)] at hquoted
  have hquote : s.quote id = .ok (some r) := by
    unfold OracleStorage.quoted at hquoted
    split at hquoted
    · rename_i q hq
      rw [hq, hquoted]
    · cases hquoted
  obtain ⟨p', hp', hr'⟩ := quote_eq_some_iff.mp hquote
  rw [metadata_of_mapped hm] at hp' hr hr'
  rw [hp', intoResponse_price_unique hr' hr]

theorem queriesAgree_iff (hs : WellFormed s) : QueriesAgree s ↔ Coherent s :=
  ⟨fun h => h.coherent hs, fun h => h.queriesAgree⟩

end

/-! ## The oracle of a pool -/

/-- The contract at the address answers the queries of the host as `s` does. -/
def ReadsOracle (deps : Deps) (oracle : Addr) (s : OracleStorage) : Prop :=
  ∀ (asset : String) (quote : Option AssetPriceResponseV1),
    deps.oraclePrice oracle asset = .ok quote ↔ s.quote asset = .ok quote

end DemocratizedPrime.PriceOracle
