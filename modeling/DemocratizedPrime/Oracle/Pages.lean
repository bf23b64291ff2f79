import DemocratizedPrime.Lib.Paging
import DemocratizedPrime.Oracle.Agreement

/-!
# The list of prices

A client lists all prices of the oracle by asking for page after page, each time after the
greatest id of the page before (`PriceListing`).  The owner can update prices and mappings in
between.

A page has the ids of the stored prices that come next (`queryPricesBatch_keys`), so a
listing is a `Paging.Walk` through the stored prices.  No message removes a price, so
an id that was priced at the start is on exactly one page, with what the oracle showed for it in
that round (`prices_listed_once`).
-/

namespace DemocratizedPrime.PriceOracle

open Result TreeMap Transitions Paging

/-! ## One page -/

section

variable {s : OracleStorage} {id : String} {prev : Option String} {limit : Uint32}
  {priceMap : PriceMap}

theorem getSortedPricesV1_eq_page :
    s.getSortedPricesV1 prev limit = page s.prices prev limit.val := by
  unfold OracleStorage.getSortedPricesV1 page
  cases prev with
  | none => rw [remaining_none]
  | some p => rfl

/-- The ids of a page. -/
def priceIds (priceMap : PriceMap) : List String := priceMap.toList.map (·.1)

theorem mem_priceIds : id ∈ priceIds priceMap ↔ ∃ r, priceMap[id]? = some r := by
  unfold priceIds
  simp only [List.mem_map, Prod.exists, exists_and_right, exists_eq_right]
  exact exists_congr fun r => Std.ExtTreeMap.mem_toList_iff_getElem?_eq_some

theorem queryPricesBatch_mem (h : queryPricesBatch s prev limit = .ok priceMap) (id : String) :
    id ∈ priceIds priceMap ↔ id ∈ (page s.prices prev limit.val).map (·.1) := by
  unfold queryPricesBatch at h
  rw [getSortedPricesV1_eq_page] at h
  rw [mem_priceIds]
  have hloop := foldlM_ok_induct
    (fun done (priceMap : PriceMap) => (∃ r, priceMap[id]? = some r) ↔ id ∈ done.map (·.1))
    (fun done entry priceMap priceMap' hdone hround => by
      obtain ⟨r, -, rfl⟩ := addPriceOfBatch_eq_ok.mp hround
      rw [getElem?_insert_eq, List.map_append, List.mem_append, ← hdone]
      by_cases hid : entry.1 = id
      · simp [hid]
      · have hid' : id ≠ entry.1 := fun heq => hid heq.symm
        simp [hid, hid']) (by simp) h
  exact hloop

/-- The ids of a page are those of the next stored prices, in order. -/
theorem queryPricesBatch_keys (h : queryPricesBatch s prev limit = .ok priceMap) :
    priceIds priceMap = (page s.prices prev limit.val).map (·.1) := by
  exact eq_of_same_members (fun a => a)
    (List.Pairwise.map _ (fun _ _ hab => hab) (ordered_toList priceMap))
    (List.Pairwise.map _ (fun _ _ hab => hab) (ordered_page s.prices prev limit.val))
    (queryPricesBatch_mem h)

end

/-! ## Listings -/

/-- A client asks for what comes after the greatest id that it has seen, until a page is
empty.  It finds the oracle in one of the states in each round. -/
inductive PriceListing : Option String → List OracleStorage → List PriceMap → Prop
  | done {prev : Option String} {s : OracleStorage} {limit : Uint32} {priceMap : PriceMap}
      (positive : 0 < limit.val) (answer : queryPricesBatch s prev limit = .ok priceMap)
      (empty : priceIds priceMap = []) : PriceListing prev [s] [priceMap]
  | more {prev : Option String} {s : OracleStorage} {limit : Uint32} {priceMap : PriceMap}
      {last : String} {rest : List OracleStorage} {pages : List PriceMap}
      (answer : queryPricesBatch s prev limit = .ok priceMap)
      (last_eq : (priceIds priceMap).getLast? = some last)
      (listing : PriceListing (some last) rest pages) :
      PriceListing prev (s :: rest) (priceMap :: pages)

section

variable {prev : Option String} {states : List OracleStorage} {pages : List PriceMap}

/-- The listing reads the stored prices page by page. -/
theorem PriceListing.walk (h : PriceListing prev states pages) :
    ∃ out, Walk prev (states.map (·.prices)) out ∧ pages.flatMap priceIds = out.map (·.1) := by
  induction h with
  | @done prev s limit priceMap positive answer empty =>
    have hempty := (queryPricesBatch_keys answer).symm.trans empty
    exact ⟨[], .done positive (List.map_eq_nil_iff.mp hempty), by simp [empty]⟩
  | @more prev s limit priceMap last rest pages answer last_eq listing ih =>
    obtain ⟨out, walk, hout⟩ := ih
    have hkeys := queryPricesBatch_keys answer
    rw [hkeys, List.getLast?_map, Option.map_eq_some_iff] at last_eq
    obtain ⟨entry, hentry, rfl⟩ := last_eq
    exact ⟨_, .more hentry walk, by rw [List.flatMap_cons, hout, hkeys, List.map_append]⟩

/-- What stands on a page is what the oracle showed in that round. -/
theorem PriceListing.shown (h : PriceListing prev states pages) {priceMap : PriceMap}
    {id : String} {r : AssetPriceResponseV1} (hpage : priceMap ∈ pages)
    (hr : priceMap[id]? = some r) :
    ∃ s ∈ states, ∃ p, s.prices[id]? = some p ∧ intoResponse (s.metadata id) p = .ok r := by
  induction h with
  | @done prev s limit first positive answer empty =>
    rw [List.mem_singleton] at hpage
    subst hpage
    exact ⟨s, List.mem_cons_self, queryPricesBatch_getElem? answer hr⟩
  | @more prev s limit first last rest pages answer last_eq listing ih =>
    rcases List.mem_cons.mp hpage with rfl | hlater
    · exact ⟨s, List.mem_cons_self, queryPricesBatch_getElem? answer hr⟩
    · obtain ⟨s', hs', hshown⟩ := ih hlater
      exact ⟨s', List.mem_cons_of_mem _ hs', hshown⟩

/-- An id among the ids of pages that share none is on one of them. -/
theorem exists_only_entry {id : String} (hnodup : (pages.flatMap priceIds).Nodup)
    (hid : id ∈ pages.flatMap priceIds) :
    ∃ r, pages.filterMap (fun priceMap => priceMap[id]?) = [r] := by
  induction pages with
  | nil => cases hid
  | cons first rest ih =>
    rw [List.flatMap_cons, List.nodup_append] at hnodup
    obtain ⟨-, hrest, hapart⟩ := hnodup
    rw [List.flatMap_cons, List.mem_append] at hid
    cases hfirst : first[id]? with
    | some r =>
      refine ⟨r, ?_⟩
      have hmem : id ∈ priceIds first := mem_priceIds.mpr ⟨r, hfirst⟩
      have hnone : rest.filterMap (fun priceMap => priceMap[id]?) = [] := by
        rw [List.filterMap_eq_nil_iff]
        intro priceMap hpage
        cases hother : priceMap[id]? with
        | none => rfl
        | some r' =>
          exact absurd rfl (hapart id hmem id
            (List.mem_flatMap.mpr ⟨priceMap, hpage, mem_priceIds.mpr ⟨r', hother⟩⟩))
      rw [List.filterMap_cons, hfirst, hnone]
    | none =>
      have hlater : id ∈ rest.flatMap priceIds := by
        rcases hid with hhere | hlater
        · obtain ⟨r, hr⟩ := mem_priceIds.mp hhere
          rw [hfirst] at hr
          cases hr
        · exact hlater
      obtain ⟨r, hr⟩ := ih hrest hlater
      exact ⟨r, by rw [List.filterMap_cons, hfirst, hr]⟩

end

/-! ## Prices stay -/

/-- No message removes a price. -/
theorem OracleStep.price_stays {s s' : OracleStorage} {call : OracleCall} {id : String}
    (h : OracleStep s call s') (hp : ∃ p, s.prices[id]? = some p) :
    ∃ p, s'.prices[id]? = some p := by
  have heffect := h.effect
  generalize call.msg = msg at heffect
  cases heffect with
  | updateOwnership action ownership => exact hp
  | updateAssetPrices updates distinct =>
    obtain ⟨p, hp⟩ := hp
    dsimp only
    rw [savePrices_getElem? distinct, priceAfter, hp]
    cases updates.find? fun u => decide (u.asset = id) with
    | none => exact ⟨p, rfl⟩
    | some update => exact ⟨_, rfl⟩
  | updateAssetMappings toUpdate toRemove distinct valid => exact hp

/-- The states are met in this order in a run. -/
def Visited : List OracleStorage → Prop :=
  List.IsChain fun s s' => ∃ ts, Run OracleStep s ts s'

theorem Visited.price_stays {s : OracleStorage} {rest : List OracleStorage} {id : String}
    (h : Visited (s :: rest)) (hp : ∃ p, s.prices[id]? = some p) :
    ∀ s' ∈ s :: rest, ∃ p, s'.prices[id]? = some p := by
  induction rest generalizing s with
  | nil =>
    intro s' hs'
    rw [List.mem_singleton.mp hs']
    exact hp
  | cons next rest ih =>
    unfold Visited at h
    rw [List.isChain_cons_cons] at h
    obtain ⟨⟨ts, run⟩, hrest⟩ := h
    have hnext : ∃ p, next.prices[id]? = some p :=
      run.invariant (I := fun s => ∃ p, s.prices[id]? = some p)
        (fun _ _ _ hp hstep => OracleStep.price_stays hstep hp) hp
    intro s' hs'
    rcases List.mem_cons.mp hs' with rfl | hlater
    · exact hp
    · exact ih hrest hnext s' hlater

/-- Whatever the owner does between two pages, each id that was priced at the start of a
listing is on exactly one page, with what the oracle showed for it in one of the rounds. -/
theorem prices_listed_once {s : OracleStorage} {rest : List OracleStorage} {pages : List PriceMap}
    {id : String} (listing : PriceListing none (s :: rest) pages) (visited : Visited (s :: rest))
    (priced : ∃ p, s.prices[id]? = some p) :
    ∃ r, pages.filterMap (fun priceMap => priceMap[id]?) = [r] ∧
      ∃ s' ∈ s :: rest, ∃ p, s'.prices[id]? = some p ∧ intoResponse (s'.metadata id) p = .ok r := by
  obtain ⟨out, walk, hids⟩ := listing.walk
  obtain ⟨v, hv⟩ := walk.complete (k := id) rfl fun m hm => by
    obtain ⟨s', hs', rfl⟩ := List.mem_map.mp hm
    exact visited.price_stays priced s' hs'
  have hnodup : (pages.flatMap priceIds).Nodup := hids ▸ walk.ordered.1.nodup_keys
  have hmem : id ∈ pages.flatMap priceIds := hids ▸ List.mem_map_of_mem hv
  obtain ⟨r, hr⟩ := exists_only_entry hnodup hmem
  have hfound : r ∈ pages.filterMap (fun priceMap => priceMap[id]?) := hr ▸ List.mem_cons_self
  obtain ⟨priceMap, hpage, hentry⟩ := List.mem_filterMap.mp hfound
  exact ⟨r, hr, listing.shown hpage hentry⟩

/-! ## A client -/

/-- The pages that a client gets with one limit, one round in each of the states. -/
def listPrices (limit : Uint32) :
    (prev : Option String) → List OracleStorage → Option (List PriceMap)
  | _, [] => none
  | prev, s :: rest =>
    match queryPricesBatch s prev limit with
    | .error _ => none
    | .ok priceMap =>
      match (priceIds priceMap).getLast? with
      | none => if rest.isEmpty then some [priceMap] else none
      | some last => (listPrices limit (some last) rest).map (priceMap :: ·)

theorem listPrices_listing {limit : Uint32} {prev : Option String} {states : List OracleStorage}
    {pages : List PriceMap} (hlimit : 0 < limit.val)
    (h : listPrices limit prev states = some pages) :
    PriceListing prev states pages := by
  induction states generalizing prev pages with
  | nil => cases h
  | cons s rest ih =>
    unfold listPrices at h
    split at h
    · cases h
    · rename_i priceMap answer
      split at h
      · rename_i hlast
        split at h
        · rename_i hrest
          rw [List.isEmpty_iff.mp hrest, ← Option.some.inj h]
          exact .done hlimit answer (List.getLast?_eq_none_iff.mp hlast)
        · cases h
      · rename_i last hlast
        rw [Option.map_eq_some_iff] at h
        obtain ⟨later, hlater, rfl⟩ := h
        exact .more answer hlast (ih hlater)

namespace Demo

/-- Three prices are set, and one of them changes while the client reads. -/
def readRun : List OracleCall :=
  [oracleCall (.updateAssetPrices
      [⟨"BTC", dollars 100000, none⟩, ⟨"ETH", dollars 4000, none⟩, ⟨"SOL", dollars 200, none⟩]),
    oracleCall (.updateAssetPrices [⟨"ETH", dollars 4100, none⟩]),
    mapNbtc, oracleCall (.updateAssetPrices [])]

/-- The display prices of an id on the pages. -/
def shownPrices (pages : List PriceMap) (id : String) : List Decimal256 :=
  (pages.filterMap fun priceMap => priceMap[id]?).map (·.displayPriceUsd)

/-- `ETH` has a price before the first page is read, and the pages list one price of it. -/
def readCheck : Bool :=
  match replayOracle deployed readRun with
  | .ok (ts, _) =>
    match listPrices 1 none (ts.map (·.post)) with
    | some pages =>
      decide (shownPrices pages "ETH" = [dollars 4100]) &&
        (match ts.map (·.post) with
          | s :: _ => s.prices["ETH"]?.isSome
          | [] => false)
    | none => false
  | .error _ => false

theorem readRun_listed : ∃ (s : OracleStorage) (rest : List OracleStorage) (pages : List PriceMap),
    PriceListing none (s :: rest) pages ∧ Visited (s :: rest) ∧ (∃ p, s.prices["ETH"]? = some p) ∧
      shownPrices pages "ETH" = [dollars 4100] := by
  have hcheck : readCheck = true := by decide +kernel
  unfold readCheck at hcheck
  split at hcheck
  · rename_i ts last hreplay
    split at hcheck
    · rename_i pages hpages
      have hrun : Run OracleStep deployed ts last ∧ ts.map (fun t => t.label) = readRun :=
        replay_run (fun _ _ => rfl) (fun _ _ _ _ h => ⟨_, h⟩) hreplay
      simp only [Bool.and_eq_true, decide_eq_true_eq] at hcheck
      obtain ⟨hshown, hpriced⟩ := hcheck
      split at hpriced
      · rename_i s rest hstates
        have hvisited : Visited (ts.map (·.post)) := hrun.1.isChain.tail
        rw [hstates] at hpages hvisited
        exact ⟨s, rest, pages, listPrices_listing (by decide) hpages, hvisited,
          Option.isSome_iff_exists.mp hpriced, hshown⟩
      · cases hpriced
    · cases hcheck
  · cases hcheck

end Demo

/-- The price changes before its page is read, and the id is still on one page only. -/
theorem prices_listed_once_readRun :
    ∃ (pages : List PriceMap) (r : AssetPriceResponseV1),
      pages.filterMap (fun priceMap => priceMap["ETH"]?) = [r] ∧
        r.displayPriceUsd = Demo.dollars 4100 := by
  obtain ⟨s, rest, pages, listing, visited, priced, hshown⟩ := Demo.readRun_listed
  obtain ⟨r, hr, -⟩ := prices_listed_once listing visited priced
  unfold Demo.shownPrices at hshown
  rw [hr] at hshown
  exact ⟨pages, r, hr, (List.cons.inj hshown).1⟩

end DemocratizedPrime.PriceOracle
