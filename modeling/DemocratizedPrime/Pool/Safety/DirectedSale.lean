import DemocratizedPrime.Pool.Safety.Adjustment
import DemocratizedPrime.Pool.Safety.Isolation

/-!
# The directed-sale protocol

A borrower adjusts an offer under a version number, and a liquidator buys from it.

* `subtractSeize_amountOf` is what a fill takes off the offer, and `OfferFilled` all that
  a fill does.
* `OffersListed` is the invariant of the stored offers: none is empty, and none lists
  nothing of an asset.
* `acceptedVersions` are the versions that a run accepted from a borrower: one, two,
  three, and so on, each of them once.
* `SaleGuarded` is what no step may break.
-/

namespace DemocratizedPrime

open Result TreeMap Transitions

variable {s s' : PoolStorage} {e : Event} {b : Addr}

/-! ## A fill -/

theorem subtractSeizeEntry_amountOf (m : Amounts) (entry : String × Uint128) (a : String) :
    (amountOf (subtractSeizeEntry m entry) a).val =
      (amountOf m a).val - coinsOf a [entryCoin entry] := by
  rw [coinsOf_cons, coinsOf_nil, Nat.add_zero]
  unfold subtractSeizeEntry entryCoin
  cases hget : m[entry.1]? with
  | none =>
    dsimp only
    by_cases ha : entry.1 = a
    · have hzero : (amountOf m a).val = 0 := by
        rw [← ha, amountOf, hget]
        rfl
      omega
    · rw [if_neg ha, Nat.sub_zero]
  | some listed =>
    dsimp only
    rw [putUnless_amountOf]
    by_cases ha : entry.1 = a
    · have hlisted : (amountOf m a).val = listed.val := by
        rw [← ha, amountOf, hget]
        rfl
      rw [if_pos ha, if_pos ha, Uint.saturatingSub_val, hlisted]
    · rw [if_neg ha, if_neg ha, Nat.sub_zero]

theorem subtractSeizeEntry_noNull {m : Amounts} (entry : String × Uint128)
    (hm : NoNull Uint.isZero m) : NoNull Uint.isZero (subtractSeizeEntry m entry) := by
  unfold subtractSeizeEntry
  split
  · exact hm
  · exact hm.putUnless _ _

theorem subtractSeize_loop (l : List (String × Uint128)) (m : Amounts) (a : String) :
    (amountOf (l.foldl subtractSeizeEntry m) a).val =
      (amountOf m a).val - coinsOf a (l.map entryCoin) := by
  induction l generalizing m with
  | nil => rfl
  | cons entry rest ih =>
    rw [List.foldl_cons, ih, subtractSeizeEntry_amountOf, List.map_cons, coinsOf_cons,
      coinsOf_cons, coinsOf_nil]
    omega

/-- What a fill leaves of an asset. -/
theorem subtractSeize_amountOf (offer seize : Amounts) (a : String) :
    (amountOf (subtractSeize offer seize) a).val =
      (amountOf offer a).val - (amountOf seize a).val := by
  rw [subtractSeize, subtractSeize_loop, coinsOf_toList, normalizeSeizeMap_amountOf]

theorem subtractSeize_noNull {offer : Amounts} (seize : Amounts)
    (h : NoNull Uint.isZero offer) : NoNull Uint.isZero (subtractSeize offer seize) := by
  have hloop (l : List (String × Uint128)) (m : Amounts) (hm : NoNull Uint.isZero m) :
      NoNull Uint.isZero (l.foldl subtractSeizeEntry m) := by
    induction l generalizing m with
    | nil => exact hm
    | cons entry rest ih => exact ih _ (subtractSeizeEntry_noNull entry hm)
  exact hloop _ _ h

/-- The borrower is liquidatable for a call: with the debt accrued to its block, and at the
prices that a liquidation acts on. -/
def Liquidatable (deps : Deps) (s : PoolStorage) (env : Env) (b : Addr) : Prop :=
  ∃ r debt quoted, AccruedTo s env.blockTime r ∧
    scaledToUnderlyingBorrow (s.getScaledBorrow b) r.borrowIndex = .ok debt ∧
    getAssetPricesForLiquidation deps env.blockTime s.contract (s.getBorrowerCollateral b) =
      .ok quoted ∧
    LiquidatableAt s.contract quoted.prices (s.getBorrowerCollateral b) debt

/-- A seizure that fills a live offer, and what it leaves of the offer. -/
structure OfferFilled (s : PoolStorage) (b : Addr) (now : Timestamp) (seize : Amounts)
    (offer : DirectedSaleOfferV1) (s' : PoolStorage) : Prop where
  stored : s.getDirectedSaleOffer b = some offer
  live : now.nanos.val < offer.expiresAt.nanos.val
  nonempty : ∃ a, (amountOf seize a).val ≠ 0
  contained : ∀ a, (amountOf seize a).val ≤ (amountOf offer.amounts a).val
  reduced : ∀ a, s'.offered b a + (amountOf seize a).val = (amountOf offer.amounts a).val
  removed : (∀ a, s'.offered b a = 0) → s'.getDirectedSaleOffer b = none
  kept : ∀ offer', s'.getDirectedSaleOffer b = some offer' → offer'.expiresAt = offer.expiresAt

/-- A stored offer lists something, and a positive amount of each asset that it lists. -/
structure OfferListed (offer : DirectedSaleOfferV1) : Prop where
  nonempty : offer.amounts.isEmpty = false
  positive : ∀ (a : String) (amount : Uint128), offer.amounts[a]? = some amount →
    0 < amount.val

/-- Every offer names amounts, and none of them zero. -/
def OffersListed (s : PoolStorage) : Prop :=
  ∀ b offer, s.getDirectedSaleOffer b = some offer → OfferListed offer

theorem OfferListed.noNull {offer : DirectedSaleOfferV1} (h : OfferListed offer) :
    NoNull Uint.isZero offer.amounts := by
  intro a amount hget
  have hpos := h.positive a amount hget
  simp only [Uint.isZero, beq_eq_false_iff_ne]
  omega

theorem OfferListed.of_noNull {amounts : Amounts} {t : Timestamp}
    (hempty : amounts.isEmpty = false) (h : NoNull Uint.isZero amounts) :
    OfferListed ⟨amounts, t⟩ := by
  refine ⟨hempty, fun a amount hget => ?_⟩
  have hnonzero := h a amount hget
  simp only [Uint.isZero, beq_eq_false_iff_ne] at hnonzero
  omega

theorem OffersListed.noNull (h : OffersListed s) (b : Addr) :
    NoNull Uint.isZero (((s.getDirectedSaleOffer b).map (·.amounts)).getD ∅) := by
  cases hoffer : s.getDirectedSaleOffer b with
  | none => exact noNull_empty _
  | some offer => exact (h b offer hoffer).noNull

/-- The offer after a directed fill is what the fill leaves of it, and after any other
liquidation it is as before. -/
theorem shrinkOffer_cases {t : LiquidationTarget} {seize : Amounts} {now : Timestamp}
    (hoffer : t.offer = s.getDirectedSaleOffer t.borrower)
    (hfill : t.directedFill = isDirectedFill t.offer now seize) :
    (t.directedFill = false ∧
      (shrinkOffer s t seize).getDirectedSaleOffer t.borrower =
        s.getDirectedSaleOffer t.borrower) ∨
      ∃ offer, s.getDirectedSaleOffer t.borrower = some offer ∧ offer.isLive now = true ∧
        isSeizeWithinOffer offer.amounts seize = true ∧
        OfferSaved s t.borrower (subtractSeize offer.amounts seize) (some offer.expiresAt)
          (shrinkOffer s t seize) := by
  unfold shrinkOffer
  cases hdirected : t.directedFill with
  | false => exact Or.inl ⟨rfl, by rw [if_neg Bool.false_ne_true]⟩
  | true =>
    rw [hdirected, isDirectedFill, eq_comm, Option.any_eq_true] at hfill
    obtain ⟨offer, hsome, hlive⟩ := hfill
    rw [Bool.and_eq_true] at hlive
    refine Or.inr ⟨offer, hoffer.symm.trans hsome, hlive.1, hlive.2, ?_, fun _ => rfl⟩
    rw [if_pos rfl, hsome]
    dsimp only
    split
    · exact (getElem?_erase_eq _ _ _).trans (if_pos rfl)
    · exact (getElem?_insert_eq _ _ _ _).trans (if_pos rfl)

/-- A liquidation of `b` fills the offer, or leaves it as it was. -/
theorem liquidate_offer {deps : Deps} {env : Env} {info : MessageInfo} {borrower : String}
    {seize : Amounts} {t : LiquidationTarget} (hlisted : OffersListed s)
    (target : t.Valid deps s env info borrower seize) (hborrower : trim borrower = b)
    (shrunk : SameRecords (shrinkOffer s t seize) s') :
    (t.directedFill = false ∧ s'.getDirectedSaleOffer b = s.getDirectedSaleOffer b) ∨
      ∃ offer, OfferFilled s b env.blockTime seize offer s' := by
  have hb : t.borrower = b := target.borrower_eq.trans hborrower
  rcases shrinkOffer_cases target.offer_eq target.directed_eq with
    ⟨hnone, hsame⟩ | ⟨offer, hoffer, hlive, hwithin, hsaved⟩
  · rw [hb] at hsame
    exact Or.inl ⟨hnone, (shrunk.getDirectedSaleOffer b).trans hsame⟩
  · rw [hb] at hoffer hsaved
    obtain ⟨hnonempty, hcontained⟩ := isSeizeWithinOffer_spec hwithin
    have hsaved' : OfferSaved s b (subtractSeize offer.amounts seize) (some offer.expiresAt) s' :=
      ⟨(shrunk.getDirectedSaleOffer b).trans hsaved.offer, hsaved.expiry⟩
    have hleft (a : String) : s'.offered b a =
        (amountOf offer.amounts a).val - (amountOf seize a).val := by
      rw [hsaved'.offered, subtractSeize_amountOf]
    refine Or.inr ⟨offer, hoffer, of_decide_eq_true hlive, ?_, hcontained, fun a => ?_,
      fun hzero => ?_, fun offer' hoffer' => ?_⟩
    · by_contra hnot
      have hzero (a : String) : (amountOf (normalizeSeizeMap seize) a).val = 0 := by
        rw [normalizeSeizeMap_amountOf]
        by_contra ha
        exact hnot ⟨a, ha⟩
      rw [(isEmpty_iff_amountOf (normalizeSeizeMap_noNull seize)).mpr hzero] at hnonempty
      cases hnonempty
    · have hle := hcontained a
      rw [hleft]
      omega
    · have hnull := subtractSeize_noNull seize (hlisted b offer hoffer).noNull
      have hempty : (subtractSeize offer.amounts seize).isEmpty = true := by
        refine (isEmpty_iff_amountOf hnull).mpr fun a => ?_
        rw [← hsaved'.offered]
        exact hzero a
      rw [hsaved'.offer, if_pos hempty]
    · rw [hsaved'.offer] at hoffer'
      split at hoffer'
      · cases hoffer'
      · cases hoffer'
        rfl

/-- Without a fill a liquidation needs a borrower who is liquidatable. -/
theorem liquidatable_of_valid {deps : Deps} {env : Env} {info : MessageInfo} {borrower : String}
    {seize : Amounts} {t : LiquidationTarget} (target : t.Valid deps s env info borrower seize)
    (hborrower : trim borrower = b) (hfill : t.directedFill = false) :
    Liquidatable deps s env b := by
  have hb : t.borrower = b := target.borrower_eq.trans hborrower
  obtain ⟨position, hposition, hhealth⟩ := target.health
  have hcollateral := target.collateral_eq
  have hquoted := target.quoted_eq
  have hfloor := target.debt_eq
  rw [target.scaledDebt_eq] at hfloor
  rw [hcollateral] at hposition hquoted
  rw [hb] at hposition hquoted hfloor
  have hbad : position.health = .liquidatable := by
    rcases hhealth with hd | hbad
    · rw [hfill] at hd
      cases hd
    · exact hbad
  exact ⟨t.reserve, t.debtUnderlying, t.quoted, target.accrued, scaledToUnderlying_of_eq hfloor,
    hquoted, position, hposition, hbad⟩

/-! ## The stored offers -/

/-- What is saved when something is outstanding is a proper offer. -/
theorem OfferSaved.listed {outstanding : Amounts} {expiry : Option Timestamp}
    {offer : DirectedSaleOfferV1} (h : OfferSaved s b outstanding expiry s')
    (hnull : NoNull Uint.isZero outstanding) (hoffer : s'.getDirectedSaleOffer b = some offer) :
    OfferListed offer := by
  rw [h.offer] at hoffer
  split at hoffer
  · cases hoffer
  · rename_i hsome
    rw [Option.map_eq_some_iff] at hoffer
    obtain ⟨t, -, rfl⟩ := hoffer
    exact .of_noNull (by simpa using hsome) hnull

theorem OffersListed.step (h : OffersListed s) (hstep : PoolStep s e s') : OffersListed s' := by
  intro b offer hoffer
  by_cases hadjust : e.adjusts b
  · obtain ⟨hsender, adjustments, expiresAt, version, hmsg⟩ := hadjust
    have hd : dispatch e.deps s e.env e.info e.msg = .ok (s', e.response) := execute_eq_ok hstep
    rw [hmsg] at hd
    obtain ⟨-, -, ⟨-, hnone⟩ | ⟨-, acc, any, expiry, shown, -, -, hloop, hsaved, -, -⟩⟩ :=
      adjust_cases hd
    · rw [hsender, hoffer] at hnone
      cases hnone
    · rw [hsender] at hloop hsaved
      obtain ⟨-, hnull⟩ := adjustLoop_all hloop
      exact hsaved.listed (hnull (h.noNull b)) hoffer
  · by_cases hliq : e.liquidates b
    · obtain ⟨borrower, seize, hmsg, htrim⟩ := hliq
      obtain ⟨t, target, shrunk⟩ := hstep.liquidate_records hmsg
      have hb : t.borrower = b := target.borrower_eq.trans htrim
      rw [shrunk.getDirectedSaleOffer b] at hoffer
      rcases shrinkOffer_cases target.offer_eq target.directed_eq with
        ⟨-, hsame⟩ | ⟨offer', hoffer', -, -, hsaved⟩
      · rw [hb, hoffer] at hsame
        exact h b offer hsame.symm
      · rw [hb] at hoffer' hsaved
        exact hsaved.listed (subtractSeize_noNull seize (h b offer' hoffer').noNull) hoffer
    · rw [hstep.offer_eq hadjust hliq] at hoffer
      exact h b offer hoffer

/-! ## The versions of a run -/

/-- The version of an adjustment of the borrower's offer. -/
def acceptedVersion (b : Addr) (e : Event) : Option Nat :=
  match e.msg with
  | .adjustDirectedCollateralSale _ _ version =>
    if e.info.sender = b then some version.val else none
  | _ => none

/-- The versions that a run accepted from a borrower, in their order. -/
def acceptedVersions (b : Addr) (ts : List (Transition PoolStorage Event)) : List Nat :=
  ts.filterMap fun x => acceptedVersion b x.label

theorem acceptedVersion_eq_some {n : Nat} (h : acceptedVersion b e = some n) :
    e.info.sender = b ∧ ∃ adjustments expiresAt version,
      e.msg = .adjustDirectedCollateralSale adjustments expiresAt version ∧ version.val = n := by
  unfold acceptedVersion at h
  split at h
  · rename_i adjustments expiresAt version hmsg
    split at h
    · cases h
      exact ⟨‹_›, adjustments, expiresAt, version, hmsg, rfl⟩
    · cases h
  · cases h

theorem acceptedVersion_of_adjusts (h : e.adjusts b) : (acceptedVersion b e).isSome = true := by
  obtain ⟨hsender, adjustments, expiresAt, version, hmsg⟩ := h
  unfold acceptedVersion
  rw [hmsg]
  dsimp only
  rw [if_pos hsender]
  rfl

/-- An accepted version is the next one, and is stored; otherwise the version stays. -/
theorem PoolStep.version_cases (h : PoolStep s e s') (b : Addr) :
    (acceptedVersion b e = none ∧ s'.getDirectedSaleVersion b = s.getDirectedSaleVersion b) ∨
      (acceptedVersion b e = some ((s.getDirectedSaleVersion b).val + 1) ∧
        (s'.getDirectedSaleVersion b).val = (s.getDirectedSaleVersion b).val + 1) := by
  cases haccepted : acceptedVersion b e with
  | none =>
    have hadjust : ¬ e.adjusts b := by
      intro hadjust
      have hsome := acceptedVersion_of_adjusts hadjust
      rw [haccepted] at hsome
      cases hsome
    exact Or.inl ⟨rfl, h.version_eq hadjust⟩
  | some n =>
    obtain ⟨hsender, adjustments, expiresAt, version, hmsg, hn⟩ := acceptedVersion_eq_some haccepted
    have hd : dispatch e.deps s e.env e.info e.msg = .ok (s', e.response) := execute_eq_ok h
    rw [hmsg] at hd
    obtain ⟨hnext, hstored, -⟩ := adjust_cases hd
    rw [hsender] at hnext hstored
    right
    rw [hstored, ← hn, hnext]
    exact ⟨rfl, rfl⟩

/-- A run from a pool without records accepts the versions one, two, three and so on. -/
theorem acceptedVersions_eq {s₀ : PoolStorage} {ts : List (Transition PoolStorage Event)}
    (hstart : NoRecords s₀) (run : Run PoolStep s₀ ts s) (b : Addr) :
    acceptedVersions b ts = List.range' 1 (s.getDirectedSaleVersion b).val := by
  induction run with
  | nil =>
    have hzero : (s₀.getDirectedSaleVersion b).val = 0 := by
      unfold PoolStorage.getDirectedSaleVersion
      rw [hstart.versions]
      rfl
    rw [hzero]
    rfl
  | @snoc ts m m' e run hstep ih =>
    unfold acceptedVersions at ih ⊢
    rw [List.filterMap_append, ih, List.filterMap_cons, List.filterMap_nil]
    rcases hstep.version_cases b with ⟨hnone, hsame⟩ | ⟨hsome, hnext⟩
    · rw [hnone, hsame]
      exact List.append_nil _
    · rw [hsome, hnext, List.range'_concat, Nat.one_mul, Nat.add_comm 1]

/-! ## The protocol -/

/-- What no step may break of the sale of `b`. -/
structure SaleGuarded (b : Addr) (x : Transition PoolStorage Event) : Prop where
  adjusted : ∀ adjustments expiresAt version, x.label.info.sender = b →
    x.label.msg = .adjustDirectedCollateralSale adjustments expiresAt version →
      OfferAdjusted x.pre x.label adjustments expiresAt version x.post
  liquidated : ∀ borrower seize, x.label.msg = .liquidate borrower seize → trim borrower = b →
    (Liquidatable x.label.deps x.pre x.label.env b ∧
        x.post.getDirectedSaleOffer b = x.pre.getDirectedSaleOffer b) ∨
      ∃ offer, OfferFilled x.pre b x.label.env.blockTime seize offer x.post
  versionKept : ¬ x.label.adjusts b →
    x.post.getDirectedSaleVersion b = x.pre.getDirectedSaleVersion b
  offerKept : ¬ x.label.adjusts b → ¬ x.label.liquidates b →
    x.post.getDirectedSaleOffer b = x.pre.getDirectedSaleOffer b

theorem PoolStep.saleGuarded (h : PoolStep s e s') (hlisted : OffersListed s) (b : Addr) :
    SaleGuarded b ⟨s, e, s'⟩ where
  adjusted adjustments expiresAt version hsender hmsg := by
    have hd : dispatch e.deps s e.env e.info e.msg = .ok (s', e.response) := execute_eq_ok h
    rw [hmsg] at hd
    exact adjustDirectedCollateralSale_adjusted hd
  liquidated borrower seize hmsg hborrower := by
    obtain ⟨t, target, shrunk⟩ := h.liquidate_records hmsg
    rcases liquidate_offer hlisted target hborrower shrunk with ⟨hfill, hsame⟩ | hfilled
    · exact Or.inl ⟨liquidatable_of_valid target hborrower hfill, hsame⟩
    · exact Or.inr hfilled
  versionKept hadjust := h.version_eq hadjust
  offerKept hadjust hliq := h.offer_eq hadjust hliq

/-- In a pool that is not paused every borrower can cancel or reduce an offer. -/
def CanReduceOffer (s : PoolStorage) : Prop :=
  ∀ deps env info adjustments expiresAt (version : Uint64),
    s.contract.operationalState ≠ .paused → info.funds = [] →
    version.val = (s.getDirectedSaleVersion info.sender).val + 1 →
    (∀ a, deltaOf adjustments a ≤ 0 ∧ deltaOf adjustments a ≠ -2 ^ 127) →
    ∃ s' res, execute deps s env info
      (.adjustDirectedCollateralSale adjustments expiresAt version) = .ok (s', res)

theorem NoRecords.offersListed (h : NoRecords s) : OffersListed s := by
  intro b offer hoffer
  unfold PoolStorage.getDirectedSaleOffer at hoffer
  rw [h.offers, Std.ExtTreeMap.getElem?_empty] at hoffer
  cases hoffer

/-- In every run of a pool the stored offers are proper, each version is accepted once and
in its turn, no step breaks `SaleGuarded`, and offers can always be reduced. -/
theorem directed_sale_protocol {t : Timestamp} {s₀ : PoolStorage}
    {ts : List (Transition PoolStorage Event)} (hdeployed : DeployedAt t s₀)
    (run : Run PoolStep s₀ ts s) :
    OffersListed s ∧
      (∀ b, (s.getDirectedSaleVersion b).val = (acceptedVersions b ts).length ∧
        (acceptedVersions b ts).Nodup) ∧
      (∀ x ∈ ts, ∀ b, SaleGuarded b x) ∧ CanReduceOffer s := by
  have hstart := hdeployed.noRecords
  have hstep : ∀ s e s', OffersListed s → PoolStep s e s' → OffersListed s' :=
    fun _ _ _ h hstep => h.step hstep
  refine ⟨run.invariant hstep hstart.offersListed, fun b => ?_, fun x hx b => ?_, ?_⟩
  · rw [acceptedVersions_eq hstart run b, List.length_range']
    exact ⟨rfl, List.nodup_range'⟩
  · have hpre := run.invariant_pre hstep hstart.offersListed x hx
    exact (run.isStep x hx).saleGuarded hpre b
  · intro deps env info adjustments expiresAt version hstate hfunds hversion hdeltas
    exact adjust_succeeds hstate hfunds hversion hdeltas

namespace Demo

/-- Alice offers gold, takes a part of the offer back, the liquidator buys the rest, and
Alice cancels what is no longer there. -/
def sale : List Call :=
  [call "lender" [⟨"usd", 1000⟩] .lend, call "alice" [⟨"gold", 100⟩] .addCollateral,
    call "alice" [] (.borrow 300),
    call "alice" [] (.adjustDirectedCollateralSale
      ((∅ : Std.ExtTreeMap String Int128).insert "gold" ⟨20, by decide⟩) (env 3600).blockTime 1),
    call "alice" [] (.adjustDirectedCollateralSale
      ((∅ : Std.ExtTreeMap String Int128).insert "gold" ⟨-15, by decide⟩) (env 0).blockTime 2),
    call "liquidator" [⟨"usd", 50⟩] (.liquidate "alice" ((∅ : Amounts).insert "gold" 5)),
    call "alice" [] (.adjustDirectedCollateralSale ∅ (env 0).blockTime 3)]

/-- Three versions were accepted, and Alice has 95 units left, none of them on offer. -/
def saleCheck (s : PoolStorage) : Bool :=
  decide ((s.getDirectedSaleVersion "alice").val = 3) && decide (s.offered "alice" "gold" = 0) &&
    decide ((amountOf (s.getBorrowerCollateral "alice") "gold").val = 95)

theorem sale_ok : replayCheck (deps 10) (env 0) ⟨"owner", []⟩ msg sale saleCheck = true := by
  decide +kernel

end Demo

theorem directed_sale_protocol_sale :
    ∃ (ts : List (Transition PoolStorage Event)) (s : PoolStorage),
      ts.map (fun x => x.label.toCall) = Demo.sale ∧ Demo.saleCheck s = true ∧ OffersListed s ∧
        (∀ b, (s.getDirectedSaleVersion b).val = (acceptedVersions b ts).length ∧
          (acceptedVersions b ts).Nodup) ∧
        (∀ x ∈ ts, ∀ b, SaleGuarded b x) ∧ CanReduceOffer s := by
  obtain ⟨s₀, ts, s, hdeployed, run, hcalls, hcheck⟩ := exists_run Demo.sale_ok
  exact ⟨ts, s, hcalls, hcheck, directed_sale_protocol hdeployed run⟩

end DemocratizedPrime
