import DemocratizedPrime.Oracle.Publications
import DemocratizedPrime.Pool.Safety.OwnerGate

/-!
# The pool and the price oracle

The two contracts under one host.  Each takes its own messages, in any order, and when the
pool asks for prices it gets the answers of the oracle's storage of that moment
(`MarketStep`).

So every quote that the pool acts on can be followed back (`Backed`): the oracle's owner
published its price, nothing has replaced it, and it is not older than the staleness
threshold of its mapping allows.  Borrowing allows no more (`loans_on_published_prices`), and a
liquidation `maxLiquidationStalenessSeconds` on top (`liquidations_on_published_prices`).
-/

namespace DemocratizedPrime

open Result Transitions PriceOracle

/-- The pool and the oracle that it asks. -/
structure Market where
  oracle : OracleStorage
  pool : PoolStorage

/-- A message to one of the two contracts. -/
inductive MarketCall
  | oracle (call : OracleCall)
  | pool (event : Event)

/-- A message to one of the two.  `address` is the oracle's. -/
def MarketStep (address : Addr) (m : Market) (call : MarketCall) (m' : Market) : Prop :=
  match call with
  | .oracle c => OracleStep m.oracle c m'.oracle ∧ m'.pool = m.pool
  | .pool e =>
    PoolStep m.pool e m'.pool ∧ m'.oracle = m.oracle ∧ ReadsOracle e.deps address m.oracle

/-- What a message publishes, if it is one to the oracle. -/
def MarketCall.published : MarketCall → List (String × PriceV1)
  | .oracle c => c.published
  | .pool _ => []

/-- The price behind a quote: the owner published it in one of these transitions, it was
not replaced, and at the time `now` it is in force for the threshold of its mapping and
`grace` seconds more. -/
def Backed (before : List (Transition Market MarketCall)) (mapping : AssetMappingV1)
    (now : Timestamp) (grace : Nat) (quote : AssetPriceResponseV1) : Prop :=
  ∃ earlier u later c price, before = earlier ++ u :: later ∧ u.label = .oracle c ∧
    (mapping.assetId, price) ∈ c.published ∧ Publication u.pre.oracle c price ∧
    (∀ v ∈ later, latest v.label.published mapping.assetId = none) ∧
    quote.displayPriceUsd = price.priceUsd ∧ quote.precision = mapping.precision.val ∧
    now.seconds < price.asOfEpochSecond + mapping.stalenessThresholdSeconds.val + grace

section

variable {address : Addr} {m₀ m : Market} {ts : List (Transition Market MarketCall)}

theorem MarketStep.prices_eq {m' : Market} {call : MarketCall} (h : MarketStep address m call m')
    (id : String) :
    m'.oracle.prices[id]? = (latest call.published id).elim m.oracle.prices[id]? some := by
  cases call with
  | oracle c => exact h.1.prices_eq id
  | pool e =>
    obtain ⟨-, hsame, -⟩ := h
    rw [hsame]
    rfl

/-- A stored price was published in the run, and has not been replaced. -/
theorem MarketStep.stored (run : Run (MarketStep address) m₀ ts m) (hstart : m₀.oracle.prices = ∅)
    {id : String} {price : PriceV1} (hprice : m.oracle.prices[id]? = some price) :
    ∃ earlier u later c, ts = earlier ++ u :: later ∧ u.label = .oracle c ∧
      (id, price) ∈ c.published ∧ Publication u.pre.oracle c price ∧
      ∀ v ∈ later, latest v.label.published id = none := by
  rw [run.latest_eq (T := fun (m : Market) id => m.oracle.prices[id]?)
    (fun _ _ _ h => h.prices_eq) id, hstart] at hprice
  cases hlatest : latest (ts.flatMap fun t => t.label.published) id with
  | none =>
    rw [hlatest] at hprice
    simp at hprice
  | some found =>
    rw [hlatest] at hprice
    cases hprice
    obtain ⟨earlier, u, later, rfl, hlogged, hlater⟩ := latest_flatMap_eq_some hlatest
    have hstep := run.isStep u (by simp)
    cases hlabel : u.label with
    | oracle c =>
      rw [hlabel] at hlogged hstep
      exact ⟨earlier, u, later, c, rfl, hlabel, hlogged, hstep.1.publication hlogged, hlater⟩
    | pool e =>
      rw [hlabel] at hlogged
      cases hlogged

/-- What the pool is answered is backed, as long as it has not expired. -/
theorem backed_of_storedQuote (run : Run (MarketStep address) m₀ ts m)
    (hstart : m₀.oracle.prices = ∅) {deps : Deps} (hreads : ReadsOracle deps address m.oracle)
    {id : String} {quote : AssetPriceResponseV1} {now : Timestamp} {grace : Nat}
    (hquote : deps.storedQuote address id = some quote)
    (hfresh : now.seconds < quote.expirationEpochSeconds + grace) :
    Backed ts (m.oracle.metadata id) now grace quote := by
  have hanswer : deps.oraclePrice address id = .ok (some quote) := by
    unfold Deps.storedQuote at hquote
    split at hquote
    · rename_i answer hanswer
      rw [hanswer, hquote]
    · cases hquote
  obtain ⟨price, hprice, hshown⟩ := quote_eq_some_iff.mp ((hreads id _).mp hanswer)
  obtain ⟨hdisplay, hprecision, -, hexpires⟩ := intoResponse_spec hshown
  obtain ⟨earlier, u, later, c, rfl, hlabel, hlogged, hpublished, hlater⟩ :=
    MarketStep.stored run hstart hprice
  rw [hexpires] at hfresh
  exact ⟨earlier, u, later, c, price, rfl, hlabel, hlogged, hpublished, hlater, hdisplay,
    hprecision, hfresh⟩

/-! ## Loans -/

theorem lt_expiration_of_fresh {p : AssetPriceResponseV1} {now : Timestamp}
    (h : p.isStale now = false) : now.seconds < p.expirationEpochSeconds := by
  simpa [AssetPriceResponseV1.isStale] using h

/-- A position that borrows is healthy at the quotes that the pool gets for its holdings, and they
are all backed, without any grace. -/
theorem loans_on_published_prices {before after : List (Transition Market MarketCall)}
    {t : Transition Market MarketCall} {e : Event} {amount : Uint128}
    (hstart : m₀.oracle.prices = ∅)
    (run : Run (MarketStep address) m₀ (before ++ t :: after) m) (hlabel : t.label = .pool e)
    (hmsg : e.msg = .borrow amount) (hbound : t.pre.pool.contract.priceOracleAddress = address) :
    ∃ (r : ReserveStateV1) (debt : DebtAfterBorrow) (prices : PriceMap) (position : BorrowerHealth),
      AccruedTo t.pre.pool e.env.blockTime r ∧
      debtAfterBorrow (t.pre.pool.getScaledBorrow e.info.sender) amount r.borrowIndex =
        .ok debt ∧
      getAssetPricesForBorrower e.deps e.env.blockTime t.pre.pool.contract
        (t.pre.pool.getBorrowerCollateral e.info.sender) = .ok prices ∧
      getBorrowerHealth t.pre.pool.contract t.pre.pool.contract.supportedCollateralAssets prices
        (t.pre.pool.getBorrowerCollateral e.info.sender) debt.debtAfter = .ok position ∧
      position.health = .healthy ∧
      ∀ id quote, prices[id]? = some quote →
        Backed before (t.pre.oracle.metadata id) e.env.blockTime 0 quote := by
  obtain ⟨hrun, hstep, -⟩ := run.split
  rw [hlabel] at hstep
  obtain ⟨hpool, -, hreads⟩ := hstep
  have hd := execute_eq_ok hpool
  rw [hmsg] at hd
  obtain ⟨r, -, debt, prices, position, -, -, hr, -, -, hdebt, hprices, hposition, hhealthy, -⟩ :=
    borrow_spec hd
  refine ⟨r, debt, prices, position, hr, hdebt, hprices, hposition, hhealthy,
    fun id quote hquote => ?_⟩
  simp only [getAssetPricesForBorrower, bind_eq_ok] at hprices
  obtain ⟨stored, hstored, hprices⟩ := hprices
  rw [hbound] at hstored
  have hkept := dropUnpriceableCollateral_spec hprices
  have hfound : stored[id]? = some quote ∧ quote.isStale e.env.blockTime = false := by
    by_cases hlending : id = t.pre.pool.contract.lendingDenom.name
    · obtain ⟨p, hp, hfresh, hsame⟩ := hkept.lending
      rw [hlending] at hquote ⊢
      rw [hsame] at hquote
      cases hquote
      exact ⟨hp, hfresh⟩
    · obtain ⟨hp, hfresh, -⟩ := (hkept.fresh id hlending quote).mp hquote
      exact ⟨hp, hfresh⟩
  obtain ⟨hfound, hfresh⟩ := hfound
  rw [getPriceFromOracle_getElem? hstored] at hfound
  split at hfound
  · exact backed_of_storedQuote hrun hstart hreads hfound (lt_expiration_of_fresh hfresh)
  · cases hfound

/-! ## Liquidations -/

theorem lt_expiration_of_not_tooOld {p : AssetPriceResponseV1} {now : Timestamp} {maxSecs : Nat}
    (h : liquidationPriceTooOld p now maxSecs = false) :
    now.seconds < p.expirationEpochSeconds + maxSecs := by
  unfold liquidationPriceTooOld AssetPriceResponseV1.isStale at h
  simp only [Bool.and_eq_false_iff, decide_eq_false_iff_not, not_le] at h
  omega

/-- A position that is liquidated is liquidatable, or the fill is directed, at quotes that are
backed with the grace of the pool's configuration. -/
theorem liquidations_on_published_prices {before after : List (Transition Market MarketCall)}
    {t : Transition Market MarketCall} {e : Event} {borrower : String} {seize : Amounts}
    (hstart : m₀.oracle.prices = ∅)
    (run : Run (MarketStep address) m₀ (before ++ t :: after) m) (hlabel : t.label = .pool e)
    (hmsg : e.msg = .liquidate borrower seize)
    (hbound : t.pre.pool.contract.priceOracleAddress = address) :
    ∃ target : LiquidationTarget, target.Valid e.deps t.pre.pool e.env e.info borrower seize ∧
      ∀ id quote, target.quoted.prices[id]? = some quote →
        id = t.pre.pool.contract.lendingDenom.name ∨ (amountOf target.collateral id).val ≠ 0 →
        Backed before (t.pre.oracle.metadata id) e.env.blockTime
          t.pre.pool.contract.maxLiquidationStalenessSeconds quote := by
  obtain ⟨hrun, hstep, -⟩ := run.split
  rw [hlabel] at hstep
  obtain ⟨hpool, -, hreads⟩ := hstep
  have hd := execute_eq_ok hpool
  rw [hmsg] at hd
  obtain ⟨target, -, -, -, -, hvalid, -⟩ := liquidate_spec hd
  refine ⟨target, hvalid, fun id quote hquote hheld => ?_⟩
  have hquoted := hvalid.quoted_eq
  simp only [getAssetPricesForLiquidation, bind_eq_ok] at hquoted
  obtain ⟨stored, hstored, hquoted⟩ := hquoted
  rw [hbound] at hstored
  have hkept := dropUnpriceableForLiquidation_spec hquoted
  rw [hkept.prices id] at hquote
  split at hquote
  · cases hquote
  · rename_i hpriceable
    have hnew : liquidationPriceTooOld quote e.env.blockTime
        t.pre.pool.contract.maxLiquidationStalenessSeconds = false := by
      rcases hheld with hlending | hholding
      · obtain ⟨p, hp, hnew⟩ := hkept.lending
        rw [hlending, hp] at hquote
        cases hquote
        exact hnew
      · -- A holding that is too old would be unpriceable.
        have hnot : isUnpriceable stored e.env.blockTime
            t.pre.pool.contract.maxLiquidationStalenessSeconds id = false := by
          rw [← Bool.not_eq_true]
          exact fun hbad => hpriceable ((hkept.unpriceable id).mpr ⟨hholding, hbad⟩)
        unfold isUnpriceable at hnot
        rw [hquote] at hnot
        exact (Bool.or_eq_false_iff.mp hnot).2
    rw [getPriceFromOracle_getElem? hstored] at hquote
    split at hquote
    · exact backed_of_storedQuote hrun hstart hreads hquote (lt_expiration_of_not_tooOld hnew)
    · cases hquote

end

/-! ## A replay -/

/-- The host's queries, where the price queries are answered by the oracle's storage. -/
def Deps.askOracle (deps : Deps) (s : OracleStorage) : Deps :=
  { deps with oraclePrice := fun _ asset =>
      match s.quote asset with
      | .ok quote => .ok quote
      | .error _ => .error "Generic error: Querier contract error" }

theorem readsOracle_askOracle (deps : Deps) (address : Addr) (s : OracleStorage) :
    ReadsOracle (deps.askOracle s) address s := by
  intro asset quote
  unfold Deps.askOracle
  dsimp only
  cases s.quote asset with
  | ok found => simp
  | error e => simp

/-- Execute a message to one of the two. -/
def fireMarket (m : Market) : OracleCall ⊕ Call → ContractResult (Market × MarketCall)
  | .inl c => do
    let (oracle, _) ← PriceOracle.execute c.deps m.oracle c.env c.info c.msg
    return ({ m with oracle }, .oracle c)
  | .inr c => do
    let c := { c with deps := c.deps.askOracle m.oracle }
    let (pool, response) ← execute c.deps m.pool c.env c.info c.msg
    return ({ m with pool }, .pool { c with response })

theorem fireMarket_step {address : Addr} {m m' : Market} {k : OracleCall ⊕ Call} {call : MarketCall}
    (h : fireMarket m k = .ok (m', call)) : MarketStep address m call m' := by
  cases k with
  | inl c =>
    simp only [fireMarket, bind_eq_ok, Prod.exists, pure_eq_ok, Prod.mk.injEq] at h
    obtain ⟨oracle, res, hexecute, rfl, rfl⟩ := h
    exact ⟨⟨res, hexecute⟩, rfl⟩
  | inr c =>
    simp only [fireMarket, bind_eq_ok, Prod.exists, pure_eq_ok, Prod.mk.injEq] at h
    obtain ⟨pool, response, hexecute, rfl, rfl⟩ := h
    exact ⟨hexecute, rfl, readsOracle_askOracle _ _ _⟩

namespace Demo

open PriceOracle.Demo

/-- Gold is published at ten dollars and Alice borrows.  Then it falls to one dollar, and
she is liquidated. -/
def boomAndBust : List (OracleCall ⊕ Call) :=
  .inl (oracleCall (.updateAssetPrices [⟨"usd", dollars 1, none⟩, ⟨"gold", dollars 10, none⟩])) ::
    opening.map .inr ++
    [.inl (oracleCall (.updateAssetPrices [⟨"gold", dollars 1, none⟩])),
      .inr (call "liquidator" [⟨"usd", 96⟩] (.liquidate "alice" ((∅ : Amounts).insert "gold" 100)))]

/-- A message to the pool, which asks the oracle. -/
def asks (isMsg : ExecuteMsg → Bool) (t : Transition Market MarketCall) : Bool :=
  match t.label with
  | .oracle _ => false
  | .pool e => isMsg e.msg && decide (t.pre.pool.contract.priceOracleAddress = "oracle")

/-- Whether a message is a `Borrow`. -/
def isBorrow : ExecuteMsg → Bool
  | .borrow _ => true
  | _ => false

/-- Whether a message is a `Liquidate`. -/
def isLiquidate : ExecuteMsg → Bool
  | .liquidate .. => true
  | _ => false

/-- Whether the messages succeed, and such a message to the pool is among them. -/
def marketCheck (isMsg : ExecuteMsg → Bool) : Bool :=
  match instantiate (deps 10) (env 0) ⟨"owner", []⟩ msg with
  | .ok (pool, _) =>
    match replay fireMarket (fun _ call => call) { oracle := deployed, pool } boomAndBust with
    | .ok (ts, _) => ts.any (asks isMsg)
    | .error _ => false
  | .error _ => false

theorem borrow_ok : marketCheck isBorrow = true := by decide +kernel

theorem liquidate_ok : marketCheck isLiquidate = true := by decide +kernel

theorem exists_marketRun {isMsg : ExecuteMsg → Bool} (h : marketCheck isMsg = true) :
    ∃ (m₀ m : Market) (before : List (Transition Market MarketCall))
      (t : Transition Market MarketCall) (after : List (Transition Market MarketCall)) (e : Event),
      m₀.oracle.prices = ∅ ∧ Run (MarketStep "oracle") m₀ (before ++ t :: after) m ∧
      t.label = .pool e ∧ isMsg e.msg = true ∧
      t.pre.pool.contract.priceOracleAddress = "oracle" := by
  unfold marketCheck at h
  split at h
  · rename_i pool _ _
    split at h
    · rename_i ts m hreplay
      obtain ⟨t, ht, hasks⟩ := List.any_eq_true.mp h
      obtain ⟨before, after, rfl⟩ := List.append_of_mem ht
      have hrun : Run (MarketStep "oracle") _ (before ++ t :: after) m :=
        run_of_replay (fun _ _ _ _ h => fireMarket_step h) hreplay
      unfold asks at hasks
      split at hasks
      · cases hasks
      · rename_i e hlabel
        rw [Bool.and_eq_true, decide_eq_true_eq] at hasks
        exact ⟨_, m, before, t, after, e, rfl, hrun, hlabel, hasks.1, hasks.2⟩
    · cases h
  · cases h

end Demo

theorem loans_on_published_prices_boom :
    ∃ (before : List (Transition Market MarketCall)) (m : Market) (e : Event) (prices : PriceMap)
      (position : BorrowerHealth), (∃ amount, e.msg = .borrow amount) ∧
      position.health = .healthy ∧ ∀ id quote, prices[id]? = some quote →
        Backed before (m.oracle.metadata id) e.env.blockTime 0 quote := by
  obtain ⟨m₀, m, before, t, after, e, hstart, run, hlabel, hmsg, hbound⟩ :=
    Demo.exists_marketRun Demo.borrow_ok
  cases hm : e.msg with
  | borrow amount =>
    obtain ⟨-, -, prices, position, -, -, -, -, hhealthy, hbacked⟩ :=
      loans_on_published_prices hstart run hlabel hm hbound
    exact ⟨before, t.pre, e, prices, position, ⟨amount, hm⟩, hhealthy, hbacked⟩
  | _ =>
    rw [hm] at hmsg
    cases hmsg

theorem liquidations_on_published_prices_bust :
    ∃ (before : List (Transition Market MarketCall)) (m : Market) (e : Event) (borrower : String)
      (seize : Amounts) (target : LiquidationTarget), e.msg = .liquidate borrower seize ∧
      target.Valid e.deps m.pool e.env e.info borrower seize ∧
      ∀ id quote, target.quoted.prices[id]? = some quote →
        id = m.pool.contract.lendingDenom.name ∨ (amountOf target.collateral id).val ≠ 0 →
        Backed before (m.oracle.metadata id) e.env.blockTime
          m.pool.contract.maxLiquidationStalenessSeconds quote := by
  obtain ⟨m₀, m, before, t, after, e, hstart, run, hlabel, hmsg, hbound⟩ :=
    Demo.exists_marketRun Demo.liquidate_ok
  cases hm : e.msg with
  | liquidate borrower seize =>
    obtain ⟨target, hvalid, hbacked⟩ :=
      liquidations_on_published_prices hstart run hlabel hm hbound
    exact ⟨before, t.pre, e, borrower, seize, target, hm, hvalid, hbacked⟩
  | _ =>
    rw [hm] at hmsg
    cases hmsg

end DemocratizedPrime
