import DemocratizedPrime.Pool.Replay
import DemocratizedPrime.Pool.Invariants.CollateralLedger

/-!
# The owner gate of permissionless liquidation

In a permissionless pool anyone may liquidate, and collateral without a usable quote
could make a sound position look bad, or be taken for nothing.  The gate leaves both to
the owner.

A call of somebody else passes the gate only if the unpriceable holdings do not decide
the outcome: each of them has a quote that is merely too old, and the position is
liquidatable with these quotes as well as without them.  A directed fill is exempt from
this half.  No call of anybody else pays out an unpriceable unit: the seizure excludes
them (`SeizableEntry`), and a write-off that would sweep one fails
(`liquidation_pays_no_unpriceable`).

The statement speaks of all stored quotes at once, `stored`.  The gate computes with the
union of the acted-on and the retained prices, which is the same map when no unpriceable
holding lacks a retained quote (`pricesWithUnpriceableLastKnown_eq`).
-/

namespace DemocratizedPrime

open Result TreeMap

/-- The liquidation cannot price this holding. -/
def unpriceableHolding (stored : PriceMap) (now : Timestamp) (contract : ContractStateV1)
    (collateral : Amounts) (asset : String) : Bool :=
  decide ((amountOf collateral asset).val ≠ 0) &&
    isUnpriceable stored now contract.maxLiquidationStalenessSeconds asset

/-- The position is liquidatable at the prices. -/
def LiquidatableAt (contract : ContractStateV1) (prices : PriceMap) (collateral : Amounts)
    (debt : Uint128) : Prop :=
  ∃ position, getBorrowerHealth contract contract.supportedCollateralAssets prices collateral
    debt = .ok position ∧ position.health = .liquidatable

namespace LiquidationPrices.Valid

variable {stored : PriceMap} {now : Timestamp} {contract : ContractStateV1}
  {collateral : Amounts} {q : LiquidationPrices}

theorem contains_eq (h : q.Valid stored now contract collateral) (a : String) :
    q.unpriceable.contains a = unpriceableHolding stored now contract collateral a := by
  rw [Bool.eq_iff_iff, h.unpriceable a, unpriceableHolding, Bool.and_eq_true, decide_eq_true_iff]

/-- The acted-on prices are the stored quotes without the unpriceable holdings. -/
theorem prices_eq (h : q.Valid stored now contract collateral) :
    q.prices = stored.filter fun a _ => !unpriceableHolding stored now contract collateral a := by
  refine Std.ExtTreeMap.ext_getElem? fun a => ?_
  rw [h.prices a, Std.ExtTreeMap.getElem?_filter', ← h.contains_eq a]
  cases q.unpriceable.contains a <;> cases stored[a]? <;> rfl

/-- When every unpriceable holding has a retained quote, the gate computes with all
stored quotes. -/
theorem pricesWithUnpriceableLastKnown_eq (h : q.Valid stored now contract collateral)
    (hknown : ∀ a, q.unpriceable.contains a = true → q.unpriceableLastKnown.contains a = true) :
    q.pricesWithUnpriceableLastKnown = stored := by
  refine Std.ExtTreeMap.ext_getElem? fun a => ?_
  rw [pricesWithUnpriceableLastKnown, Std.ExtTreeMap.getElem?_union, h.prices a]
  -- A retained quote is a stored one, so the union can only return what is stored.
  cases hlast : q.unpriceableLastKnown[a]? with
  | some p =>
    rw [((h.lastKnown a p).mp hlast).1]
    rfl
  | none =>
    have hpriced : q.unpriceable.contains a = false := by
      cases hc : q.unpriceable.contains a with
      | false => rfl
      | true =>
        have hmem := Std.ExtTreeMap.isSome_getElem?_eq_contains.trans (hknown a hc)
        rw [hlast] at hmem
        cases hmem
    rw [hpriced]
    simp

/-- An unpriceable holding with a retained quote has a stored quote that is not zero. -/
theorem lastKnown_nonzero (h : q.Valid stored now contract collateral) {a : String}
    (ha : q.unpriceableLastKnown.contains a = true) :
    ∃ p, stored[a]? = some p ∧ p.isZeroPrice = false := by
  rw [← Std.ExtTreeMap.isSome_getElem?_eq_contains, Option.isSome_iff_exists] at ha
  obtain ⟨p, hp⟩ := ha
  obtain ⟨hstored, -, hzero, -⟩ := (h.lastKnown a p).mp hp
  exact ⟨p, hstored, hzero⟩

end LiquidationPrices.Valid

theorem getAssetPricesForLiquidation_spec {deps : Deps} {now : Timestamp}
    {contract : ContractStateV1} {collateral : Amounts} {q : LiquidationPrices}
    (h : getAssetPricesForLiquidation deps now contract collateral = .ok q) :
    ∃ stored, getPriceFromOracle deps contract.priceOracleAddress
      (pricedAssetIds contract collateral) true = .ok stored ∧
        q.Valid stored now contract collateral := by
  simp only [getAssetPricesForLiquidation, bind_eq_ok] at h
  obtain ⟨stored, hstored, hq⟩ := h
  exact ⟨stored, hstored, dropUnpriceableForLiquidation_spec hq⟩

/-! ## What passes the gate -/

/-- Holdings that are not load-bearing all have a retained quote, and the position is
liquidatable with them. -/
theorem unpriceableIsLoadBearing_false {contract : ContractStateV1} {q : LiquidationPrices}
    {collateral : Amounts} {debt : Uint128}
    (h : unpriceableIsLoadBearing contract q collateral debt = .ok false) :
    q.unpriceable = [] ∨
      ((∀ a, q.unpriceable.contains a = true → (amountOf collateral a).val ≠ 0 →
        q.unpriceableLastKnown.contains a = true) ∧
      LiquidatableAt contract q.pricesWithUnpriceableLastKnown collateral debt) := by
  unfold unpriceableIsLoadBearing at h
  split at h
  · rename_i hempty
    exact Or.inl (List.isEmpty_iff.mp hempty)
  · dsimp only at h
    split at h
    · cases h
    · rename_i hmissing
      simp only [bind_eq_ok, pure_eq_ok, decide_eq_false_iff_not, not_not] at h
      obtain ⟨position, hposition, hhealth⟩ := h
      refine Or.inr ⟨fun a ha hheld => ?_, position, hposition, hhealth⟩
      rw [Bool.not_eq_true, List.any_eq_false] at hmissing
      have hentry := hmissing a (List.contains_iff_mem.mp ha)
      have hpos : 0 < (amountOf collateral a).val := by omega
      simpa [hpos] using hentry

/-- A caller who is not the owner passes the gate on its merits. -/
theorem requireOwnerForUnpriceable_ok {ownership : Ownership} {sender : Addr}
    {contract : ContractStateV1} {q : LiquidationPrices} {pre post : Amounts} {debt : Uint128}
    {badDebt directed : Bool} (hopen : contract.liquidationAccess = .permissionless)
    (hsender : ownership.owner ≠ some sender)
    (h : requireOwnerForUnpriceable ownership sender contract q pre debt badDebt post directed =
      .ok ()) :
    loadBearing contract q pre debt directed = .ok false ∧
      sweepsUnpriceable q badDebt post = false := by
  unfold requireOwnerForUnpriceable at h
  rw [hopen] at h
  simp only [bind_eq_ok] at h
  obtain ⟨bearing, hbearing, hgate⟩ := h
  split at hgate
  · rw [Ownership.assertOwner, ensure_eq_ok] at hgate
    exact absurd hgate hsender
  · rename_i hpass
    simp only [Bool.or_eq_true, not_or, Bool.not_eq_true] at hpass
    rw [hbearing, hpass.1]
    exact ⟨rfl, hpass.2⟩

/-! ## What is paid out -/

/-- A map's entry that the coins of the map contain is one of its entries. -/
theorem coinsOf_entries_eq_zero {l : List (String × Uint128)} {a : String}
    (h : ∀ e ∈ l, e.2.val ≠ 0 → e.1 ≠ a) : coinsOf a (l.map entryCoin) = 0 := by
  induction l with
  | nil => rfl
  | cons e rest ih =>
    have hrest := ih fun e' he' => h e' (List.mem_cons_of_mem _ he')
    have hhead : (if e.1 = a then e.2.val else 0) = 0 := by
      by_cases hzero : e.2.val = 0
      · rw [hzero, ite_self]
      · rw [if_neg (h e List.mem_cons_self hzero)]
    rw [List.map_cons, coinsOf_cons, hrest]
    exact hhead

/-- Neither the seizure nor the sweep contains an unpriceable unit, unless the gate left
the sweep to the owner. -/
theorem seizedCoins_unpriceable {ownership : Ownership} {contract : ContractStateV1}
    {info : MessageInfo} {t : LiquidationTarget} {seize : Amounts} {p : LiquidationPlan}
    (plan : p.Valid ownership contract info t seize)
    (hsweep : sweepsUnpriceable t.quoted p.badDebt p.postCollateral = false) {a : String}
    (ha : t.quoted.unpriceable.contains a = true) : coinsOf a (seizedCoins p seize) = 0 := by
  rw [seizedCoins, List.map_append, coinsOf_append]
  have hseized : coinsOf a ((normalizeSeizeMap seize).toList.map entryCoin) = 0 := by
    refine coinsOf_entries_eq_zero fun e he hne heq => ?_
    have hmem : seize[e.1]? = some e.2 := by
      have hfilter := Std.ExtTreeMap.mem_toList_iff_getElem?_eq_some.mp he
      rw [normalizeSeizeMap, Std.ExtTreeMap.getElem?_filter', Option.filter_eq_some_iff] at hfilter
      exact hfilter.1
    have hpriced := (plan.seizable e (Std.ExtTreeMap.mem_toList_iff_getElem?_eq_some.mpr hmem)
      hne).2.2.1
    rw [heq, ha] at hpriced
    cases hpriced
  have hswept : coinsOf a ((sweptCollateral p).toList.map entryCoin) = 0 := by
    unfold sweptCollateral
    cases hbad : p.badDebt with
    | false => rw [if_neg Bool.false_ne_true, coinsOf_toList, amountOf_empty]
    | true =>
      rw [if_pos rfl]
      refine coinsOf_entries_eq_zero fun e he hne heq => ?_
      rw [sweepsUnpriceable, hbad, Bool.true_and, List.any_eq_false] at hsweep
      have hfilter := Std.ExtTreeMap.mem_toList_iff_getElem?_eq_some.mp he
      rw [normalizeSeizeMap, Std.ExtTreeMap.getElem?_filter', Option.filter_eq_some_iff] at hfilter
      have hentry := hsweep e (Std.ExtTreeMap.mem_toList_iff_getElem?_eq_some.mpr hfilter.1)
      have hpos : 0 < e.2.val := by omega
      rw [heq, ha] at hentry
      simp [hpos] at hentry
  omega

/-- The lending denomination has a usable quote, so it is not unpriceable. -/
theorem lendingDenom_priceable {ownership : Ownership} {contract : ContractStateV1}
    {info : MessageInfo} {t : LiquidationTarget} {seize : Amounts} {p : LiquidationPlan}
    {stored : PriceMap} {now : Timestamp} (plan : p.Valid ownership contract info t seize)
    (quoted : t.quoted.Valid stored now contract t.collateral) :
    t.quoted.unpriceable.contains contract.lendingDenom.name = false := by
  obtain ⟨price, hprice, -⟩ := plan.values
  rw [quoted.prices] at hprice
  split at hprice
  · cases hprice
  · exact Bool.eq_false_iff.mpr ‹_›

/-- What a liquidation sends contains no unit of an unpriceable holding, if its sweep does
not. -/
theorem liquidation_pays_no_unpriceable {ownership : Ownership} {contract : ContractStateV1}
    {info : MessageInfo} {t : LiquidationTarget} {seize outgoing : Amounts} {p : LiquidationPlan}
    {stored : PriceMap} {now : Timestamp} {res : Response} {a : String}
    (plan : p.Valid ownership contract info t seize)
    (quoted : t.quoted.Valid stored now contract t.collateral)
    (hsweep : sweepsUnpriceable t.quoted p.badDebt p.postCollateral = false)
    (hout : Added ∅ (seizedCoins p seize) outgoing)
    (hmessages : res.messages = sendMessages info.sender (outgoing.toList.map entryCoin) ++
      refundOf info.sender contract.lendingDenom.name p.sent p.actualRepay)
    (ha : t.quoted.unpriceable.contains a = true) : coinsOf a res.sentCoins = 0 := by
  have hne : contract.lendingDenom.name ≠ a := by
    intro he
    have hpriced := lendingDenom_priceable plan quoted
    rw [he, ha] at hpriced
    cases hpriced
  have hcoins : coinsOf a (outgoing.toList.map entryCoin) = 0 := by
    rw [coinsOf_toList, hout.amounts a, amountOf_empty, Nat.zero_add]
    exact seizedCoins_unpriceable plan hsweep ha
  have hsend : coinsOf a (((sendMessages info.sender (outgoing.toList.map
      entryCoin)).filterMap CosmosMsg.bankSend?).flatMap (·.2)) = 0 := by
    unfold sendMessages
    split
    · rfl
    · simpa using hcoins
  have hrefund : coinsOf a (((refundOf info.sender contract.lendingDenom.name p.sent
      p.actualRepay).filterMap CosmosMsg.bankSend?).flatMap (·.2)) = 0 := by
    unfold refundOf
    split
    · simp [hne]
    · rfl
  rw [Response.sentCoins, bankSends_eq hmessages, List.filterMap_append, List.flatMap_append,
    coinsOf_append, hsend, hrefund]

/-! ## The gate as a whole -/

/-- A liquidation in a permissionless pool by somebody who is not the owner.  Unless it is
a directed fill, every unpriceable holding has a stored quote that is not zero, and the
position is liquidatable both without the unpriceable holdings and with all of them at
their stored quotes.  In any case no unpriceable unit is paid out. -/
theorem permissionless_liquidation_safe {deps : Deps} {s s' : PoolStorage} {env : Env}
    {info : MessageInfo} {borrower : String} {seize : Amounts} {res : Response}
    (hopen : s.contract.liquidationAccess = .permissionless)
    (hsender : s.ownership.owner ≠ some info.sender)
    (h : execute deps s env info (.liquidate borrower seize) = .ok (s', res)) :
    ∃ stored r debt,
      getPriceFromOracle deps s.contract.priceOracleAddress
        (pricedAssetIds s.contract (s.getBorrowerCollateral (trim borrower))) true = .ok stored ∧
      computeEffectiveReserve s env.blockTime s.contract.rateParams = .ok r ∧
      scaledToUnderlyingBorrow (s.getScaledBorrow (trim borrower)) r.borrowIndex = .ok debt ∧
      (isDirectedFill (s.getDirectedSaleOffer (trim borrower)) env.blockTime seize = false →
        (∀ a, unpriceableHolding stored env.blockTime s.contract
            (s.getBorrowerCollateral (trim borrower)) a = true →
          ∃ p, stored[a]? = some p ∧ p.isZeroPrice = false) ∧
        LiquidatableAt s.contract
          (stored.filter fun a _ => !unpriceableHolding stored env.blockTime s.contract
            (s.getBorrowerCollateral (trim borrower)) a)
          (s.getBorrowerCollateral (trim borrower)) debt ∧
        LiquidatableAt s.contract stored (s.getBorrowerCollateral (trim borrower)) debt) ∧
      ∀ a, unpriceableHolding stored env.blockTime s.contract
          (s.getBorrowerCollateral (trim borrower)) a = true →
        coinsOf a res.sentCoins = 0 := by
  have hliquidate : liquidate deps s env info borrower seize = .ok (s', res) := execute_eq_ok h
  obtain ⟨t, p, r', outgoing, totals, target, plan, -, hout, -, -, hmessages⟩ :=
    liquidate_spec hliquidate
  obtain ⟨stored, hstored, quoted⟩ := getAssetPricesForLiquidation_spec target.quoted_eq
  obtain ⟨hbearing, hsweep⟩ := requireOwnerForUnpriceable_ok hopen hsender plan.ownerGate
  have hcollateral := target.collateral_eq
  rw [target.borrower_eq] at hcollateral
  have hscaled := target.scaledDebt_eq
  rw [target.borrower_eq] at hscaled
  have hdirected := target.directed_eq
  rw [target.offer_eq, target.borrower_eq] at hdirected
  have hdebt : scaledToUnderlyingBorrow (s.getScaledBorrow (trim borrower))
      t.reserve.borrowIndex = .ok t.debtUnderlying :=
    scaledToUnderlying_of_eq (by rw [← hscaled]; exact target.debt_eq)
  rw [← hcollateral]
  refine ⟨stored, t.reserve, t.debtUnderlying, hstored, target.accrued, hdebt, fun hfill => ?_,
    fun a ha => ?_⟩
  · rw [← hdirected] at hfill
    -- The health check of the message itself, which a directed fill would skip.
    obtain ⟨position, hposition, hhealth⟩ := target.health
    have hbad : position.health = .liquidatable := by
      rcases hhealth with hd | hbad
      · rw [hfill] at hd
        cases hd
      · exact hbad
    have hacted : LiquidatableAt s.contract t.quoted.prices t.collateral t.debtUnderlying :=
      ⟨position, hposition, hbad⟩
    rw [loadBearing, hfill, if_neg Bool.false_ne_true] at hbearing
    rw [← quoted.prices_eq]
    rcases unpriceableIsLoadBearing_false hbearing with hnone | ⟨hknown, hcounted⟩
    · have hpriced : ∀ a, t.quoted.unpriceable.contains a = false := by
        intro a
        rw [hnone]
        rfl
      have hall : t.quoted.prices = stored := by
        refine Std.ExtTreeMap.ext_getElem? fun a => ?_
        rw [quoted.prices a, hpriced a, if_neg Bool.false_ne_true]
      refine ⟨fun a ha => ?_, hacted, hall ▸ hacted⟩
      rw [← quoted.contains_eq, hpriced a] at ha
      cases ha
    · have hretained : ∀ a, t.quoted.unpriceable.contains a = true →
          t.quoted.unpriceableLastKnown.contains a = true :=
        fun a ha => hknown a ha ((quoted.unpriceable a).mp ha).1
      refine ⟨fun a ha => ?_, hacted, ?_⟩
      · rw [← quoted.contains_eq] at ha
        exact quoted.lastKnown_nonzero (hretained a ha)
      · rw [← quoted.pricesWithUnpriceableLastKnown_eq hretained]
        exact hcounted
  · rw [← quoted.contains_eq] at ha
    exact liquidation_pays_no_unpriceable plan quoted hsweep hout hmessages ha

namespace Demo

/-- The pool takes silver too, and anyone may liquidate. -/
def permissionlessMsg : InstantiateMsg := { msg with
  supportedCollateralAssets := [⟨"gold", some (percent 90)⟩, ⟨"silver", some (percent 90)⟩]
  liquidationAccess := .permissionless }

/-- Gold is at the price given, and the quote of silver expires at the second given. -/
def depsSilver (gold expiry : Nat) : Deps :=
  depsFor fun asset =>
    if asset = "silver" then some { quote 1 with expirationEpochSeconds := expiry }
    else (deps gold).storedQuote "oracle" asset

/-- Alice borrows against gold and silver. -/
def openingSilver : List Call :=
  [call "lender" [⟨"usd", 1000⟩] .lend,
    ⟨depsSilver 10 2000000000, env 0, ⟨"alice", [⟨"gold", 100⟩, ⟨"silver", 10⟩]⟩, .addCollateral⟩,
    ⟨depsSilver 10 2000000000, env 0, ⟨"alice", []⟩, .borrow 500⟩]

/-- Gold falls, and the quote of silver is a thousand seconds old. -/
def anyoneLiquidates (s : PoolStorage) : ContractResult (PoolStorage × Response) :=
  execute (depsSilver 5 1699999000) s (env 0) ⟨"bob", [⟨"usd", 500⟩]⟩
    (.liquidate "alice" ((∅ : Amounts).insert "gold" 100))

/-- Bob is not the owner of the permissionless pool, silver is unpriceable, and his
liquidation succeeds. -/
def anyoneCheck (s : PoolStorage) : Bool :=
  decide (s.contract.liquidationAccess = .permissionless) &&
    (decide (s.ownership.owner ≠ some "bob") && (anyoneLiquidates s).isOk)

theorem anyone_ok :
    replayCheck (depsSilver 10 2000000000) (env 0) ⟨"owner", []⟩ permissionlessMsg openingSilver
      anyoneCheck = true := by
  decide +kernel

end Demo

/-- Bob, who is not the owner, liquidates Alice's gold beside her unpriceable silver. -/
theorem permissionless_liquidation_safe_silver :
    ∃ s s' res stored, Demo.anyoneLiquidates s = .ok (s', res) ∧
      ∀ a, unpriceableHolding stored (Demo.env 0).blockTime s.contract
        (s.getBorrowerCollateral (trim "alice")) a = true → coinsOf a res.sentCoins = 0 := by
  obtain ⟨s₀, ts, s, -, -, -, hcheck⟩ := exists_run Demo.anyone_ok
  simp only [Demo.anyoneCheck, Bool.and_eq_true, decide_eq_true_iff] at hcheck
  obtain ⟨hopen, hsender, hok⟩ := hcheck
  cases hliquidate : Demo.anyoneLiquidates s with
  | error e =>
    rw [hliquidate] at hok
    cases hok
  | ok out =>
    obtain ⟨stored, -, -, -, -, -, -, hpaid⟩ :=
      permissionless_liquidation_safe hopen hsender hliquidate
    exact ⟨s, out.1, out.2, stored, hliquidate, hpaid⟩

end DemocratizedPrime
