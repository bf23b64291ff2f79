import DemocratizedPrime.Pool.Overflow
import DemocratizedPrime.Pool.Query.CollateralRequirements
import DemocratizedPrime.Pool.Safety.BorrowGates
import DemocratizedPrime.Pool.Invariants.CollateralLedger
import DemocratizedPrime.Pool.Invariants.ConfigSafety
import DemocratizedPrime.Pool.Replay

/-!
# A quote suffices

After a deposit that a quote asks for, the loan passes the health check of Borrow in the
same block.  The query inverts what Borrow computes, and each step of the inversion errs on
the safe side.

* The debt is the one that Borrow records, with its scaled round trip.
* The required value is rounded up (`checkedDivCeil_spec`), so that the ratio of the debt
  value to it does not exceed the margin rate.
* An amount is rounded up through both truncations
  (`amountFromUsdHaircutted_sufficient`).
* A deposit is valued together with what is held already.  A value that truncates does not
  shrink when amounts are joined (`Valuation.added_le`).

The query and Borrow ask the oracle for different lists of assets.  Both count the fresh
quotes that are not zero, so `freshValue` is the value of an amount to either
(`assetValue_eq_freshValue`).

The holdings are valued together, and that value may exceed 256 bits where the value of no
deposit does (`collateral_quote_overflows`).  Then Borrow aborts.  `BorrowPassesHealthCheck`
says what Borrow itself does, with and without the overflow (`LoanCovered.passes`).
-/

namespace DemocratizedPrime

open Result Transitions TreeMap

/-! ## The value of an amount at fresh quotes -/

/-- The stored quote of an asset, if it is fresh and not zero. -/
def Deps.freshQuote (deps : Deps) (oracle : Addr) (now : Timestamp) (asset : String) :
    Option AssetPriceResponseV1 :=
  (deps.storedQuote oracle asset).filter fun p => !(p.isStale now || p.isZeroPrice)

/-- The haircutted value of an amount at the fresh quote, with both truncations. -/
def freshValue (deps : Deps) (now : Timestamp) (contract : ContractStateV1) (asset : String)
    (amount : Nat) : Nat :=
  match deps.freshQuote contract.priceOracleAddress now asset with
  | none => 0
  | some p => p.valueAtomics amount *
      (haircutPercentage contract.supportedCollateralAssets asset).atomics / decimalFractional

theorem freshValue_valuation (deps : Deps) (now : Timestamp) (contract : ContractStateV1) :
    Valuation (freshValue deps now contract) where
  zero a := by
    unfold freshValue
    split <;> simp
  add_le a m n := by
    unfold freshValue
    split
    · exact Nat.le_refl _
    · rename_i p hp
      calc p.valueAtomics m * _ / decimalFractional + p.valueAtomics n * _ / decimalFractional
          ≤ (p.valueAtomics m * _ + p.valueAtomics n * _) / decimalFractional :=
            Nat.div_add_div_le_add_div
        _ ≤ p.valueAtomics (m + n) *
              (haircutPercentage contract.supportedCollateralAssets a).atomics /
                decimalFractional := by
            rw [← Nat.add_mul]
            exact Nat.div_le_div_right (Nat.mul_le_mul_right _ (p.valueAtomics_add_le m n))

section Prices

variable {deps : Deps} {now : Timestamp} {contract : ContractStateV1} {stored prices : PriceMap}

/-- The borrow prices value an asset at its fresh quote. -/
theorem assetValue_eq_freshValue
    (h : BorrowPrices stored contract.lendingDenom.name now prices) {a : String}
    (hstored : stored[a]? = deps.storedQuote contract.priceOracleAddress a) (amount : Nat) :
    assetValue prices contract.supportedCollateralAssets a amount =
      freshValue deps now contract a amount := by
  unfold assetValue freshValue Deps.freshQuote
  rw [← hstored]
  by_cases ha : a = contract.lendingDenom.name
  · obtain ⟨p, hp, hfresh, hp'⟩ := h.lending
    rw [ha, hp, hp']
    -- The lending denomination is kept with a zero quote too, and is worth nothing then.
    cases hzero : p.isZeroPrice with
    | true => simp [Option.filter, hzero, isZeroPrice_valueAtomics hzero]
    | false => simp [Option.filter, hfresh, hzero]
  · have hsame : prices[a]? = (stored[a]?).filter fun p => !(p.isStale now || p.isZeroPrice) := by
      apply Option.ext
      intro p
      rw [h.fresh a ha p, Option.filter_eq_some_iff]
      simp
    cases hquote : (stored[a]?).filter fun p => !(p.isStale now || p.isZeroPrice) with
    | none => simp only [hsame, hquote]
    | some p => simp only [hsame, hquote]

/-- So the value of a holding is that of its entries at their fresh quotes. -/
theorem collateralValue_eq_freshValue
    (h : BorrowPrices stored contract.lendingDenom.name now prices) {collateral : Amounts}
    (hstored : ∀ a ∈ collateral.keys,
      stored[a]? = deps.storedQuote contract.priceOracleAddress a) :
    collateralValue prices contract.supportedCollateralAssets collateral =
      (collateral.toList.map fun entry =>
        freshValue deps now contract entry.1 entry.2.val).sum := by
  unfold collateralValue
  congr 1
  refine List.map_congr_left fun entry hentry => ?_
  apply assetValue_eq_freshValue h
  apply hstored
  have hget := Std.ExtTreeMap.mem_toList_iff_getElem?_eq_some.mp hentry
  rw [Std.ExtTreeMap.mem_keys, Std.ExtTreeMap.mem_iff_isSome_getElem?, hget]
  rfl

end Prices

/-! ## What a quote establishes -/

/-- The rounded quotient times the divisor covers the dividend. -/
theorem checkedDivCeil_spec {n d q : Decimal256} (h : checkedDivCeil n d = .ok q) :
    n.atomics * decimalFractional ≤ q.atomics * d.atomics := by
  simp only [checkedDivCeil, bind_eq_ok, Decimal256.checkedDiv_eq_ok,
    Decimal256.checkedMul_eq_ok] at h
  obtain ⟨quotient, ⟨hd, hquotient⟩, product, hproduct, h⟩ := h
  split at h
  · rename_i hexact
    rw [← pure_eq_ok.mp h]
    rw [hexact] at hproduct
    rw [hproduct]
    exact Nat.div_mul_le_self _ _
  · rw [Decimal256.checkedAdd_eq_ok.mp h, hquotient, Nat.add_mul, Nat.one_mul]
    exact (Nat.lt_div_mul_add (Nat.pos_of_ne_zero hd)).le

theorem mem_foldl_pushAssetId {ids l : List String} {a : String} :
    a ∈ l.foldl pushAssetId ids ↔ a ∈ ids ∨ a ∈ l := by
  induction l generalizing ids with
  | nil => simp
  | cons id rest ih =>
    rw [List.foldl_cons, ih, pushAssetId]
    split
    · rename_i hid
      rw [List.contains_iff_mem] at hid
      constructor
      · rintro (hids | hrest)
        · exact Or.inl hids
        · exact Or.inr (List.mem_cons_of_mem _ hrest)
      · rintro (hids | hcons)
        · exact Or.inl hids
        · rcases List.mem_cons.mp hcons with rfl | hrest
          · exact Or.inl hid
          · exact Or.inr hrest
    · simp [or_assoc]

/-- The query prices the lending denomination, the requested assets, and the holdings. -/
theorem mem_requirementAssetIds {lendingDenom a : String} {requested held : List String} :
    a ∈ requirementAssetIds lendingDenom requested held ↔
      a = lendingDenom ∨ a ∈ requested ∨ a ∈ held := by
  rw [requirementAssetIds, mem_foldl_pushAssetId, List.mem_singleton, List.mem_append]

/-- What the quote of a borrower with a new loan was computed from. -/
structure QuoteValid (deps : Deps) (s : PoolStorage) (env : Env) (b : Addr) (amount : Uint128)
    (assets : List String) (q : CollateralQuote) (r : ReserveStateV1) (debt : DebtAfterBorrow)
    (stored prices : PriceMap) (debtUsd : Decimal256) : Prop where
  stored_eq : getPriceFromOracle deps s.contract.priceOracleAddress
    (requirementAssetIds s.contract.lendingDenom.name assets
      (s.getBorrowerCollateral b).keys) true = .ok stored
  prices_eq : BorrowPrices stored s.contract.lendingDenom.name env.blockTime prices
  accrued : computeEffectiveReserve s env.blockTime s.contract.rateParams = .ok r
  debt_eq : debtAfterBorrow (s.getScaledBorrow b) amount r.borrowIndex = .ok debt
  debtUsd_eq : calculateBorrowValueUsd debt.debtAfter s.contract.lendingDenom.name prices =
    .ok debtUsd
  required_ge : debtUsd.atomics * decimalFractional ≤
    q.requiredCollateralValueUsd.atomics * s.contract.marginRate.atomics
  toCover_eq : q.valueToCover.atomics = q.requiredCollateralValueUsd.atomics -
    collateralValue prices s.contract.supportedCollateralAssets (s.getBorrowerCollateral b)
  rows : ∀ row ∈ q.required, ∃ a ∈ assets,
    assetRequirement s.contract prices q.valueToCover a = .ok row

theorem collateralQuote_spec {deps : Deps} {s : PoolStorage} {env : Env} {b : Addr}
    {amount : Uint128} {assets : List String} {q : CollateralQuote} (hamount : amount.val ≠ 0)
    (h : collateralQuote deps s env (some b) amount assets = .ok q) :
    ∃ r debt stored prices debtUsd,
      QuoteValid deps s env b amount assets q r debt stored prices debtUsd := by
  simp only [collateralQuote, Option.isNone_some, Bool.and_false, Bool.false_eq_true, if_false,
    Option.map_some, Option.getD_some, totalDebtAfter, if_neg hamount, valueToCover, bind_eq_ok,
    pure_eq_ok] at h
  obtain ⟨stored, hstored, prices, hprices, r, hr, _, ⟨debt, hdebt, rfl⟩, debtUsd, hdebtUsd,
    required, hrequired, toCover, ⟨existing, hexisting, rfl⟩, rows, hrows, rfl⟩ := h
  refine ⟨r, debt, stored, prices, debtUsd, {
    stored_eq := hstored
    prices_eq := dropUnpriceableCollateral_spec hprices
    accrued := hr
    debt_eq := hdebt
    debtUsd_eq := hdebtUsd
    required_ge := checkedDivCeil_spec hrequired
    toCover_eq := ?_
    rows := fun row hrow => mem_of_mapM_ok hrows hrow }⟩
  rw [← calculateTotalCollateralValueUsd_eq hexisting]
  rfl

/-- A satisfiable row of a positive requirement covers it, at a fresh quote that is not
zero. -/
theorem assetRequirement_covers {deps : Deps} {now : Timestamp} {contract : ContractStateV1}
    {stored prices : PriceMap} {toCover : Decimal256} {a : String} {row : AssetRequirementV1}
    (hprices : BorrowPrices stored contract.lendingDenom.name now prices)
    (hstored : stored[a]? = deps.storedQuote contract.priceOracleAddress a)
    (h : assetRequirement contract prices toCover a = .ok row) (hrow : row.satisfiable = true) :
    row.assetId = a ∧ toCover.atomics ≤ freshValue deps now contract a row.amount.val := by
  unfold assetRequirement at h
  by_cases hzero : toCover.isZero = true
  · rw [if_pos hzero, pure_eq_ok] at h
    rw [Decimal256.isZero_iff.mp hzero, ← h]
    exact ⟨rfl, Nat.zero_le _⟩
  · rw [if_neg hzero] at h
    rw [← assetValue_eq_freshValue hprices hstored, assetValue]
    cases hp : prices[a]? with
    | none =>
      rw [hp] at h
      rw [← pure_eq_ok.mp h] at hrow
      cases hrow
    | some price =>
      rw [hp] at h
      dsimp only at h ⊢
      split at h
      · rw [← pure_eq_ok.mp h] at hrow
        cases hrow
      · split at h
        · rename_i amount hquote
          rw [← pure_eq_ok.mp h]
          exact ⟨rfl, price.amountFromUsdHaircutted_sufficient hquote⟩
        · rw [← pure_eq_ok.mp h] at hrow
          cases hrow
        · cases h

/-! ## The health check of Borrow -/

/-- The holdings of `b` can be valued at the borrow prices: no notional and no sum exceeds 256
bits. -/
def HoldingsValueFits (deps : Deps) (env : Env) (s : PoolStorage) (b : Addr) : Prop :=
  ∀ prices, getAssetPricesForBorrower deps env.blockTime s.contract (s.getBorrowerCollateral b) =
    .ok prices → IsOk (calculateTotalCollateralValueUsd (s.getBorrowerCollateral b) prices
      s.contract.supportedCollateralAssets)

/-- The health check does not stand in the way of a Borrow: the ratio that it computes is at
most the margin rate, so the Borrow succeeds whenever nothing else stands in its way.  Only a
valuation that overflows aborts it. -/
structure BorrowPassesHealthCheck (deps : Deps) (env : Env) (s : PoolStorage) (info : MessageInfo)
    (amount : Uint128) : Prop where
  ltv_le : ∀ ltv, BorrowLtv s deps env info.sender amount ltv → ltv ≤ s.contract.marginRate
  isOk_iff : IsOk (execute deps s env info (.borrow amount)) ↔
    BorrowAllowed s deps env info amount ∧ HoldingsValueFits deps env s info.sender
  overflow : BorrowAllowed s deps env info amount → ¬ HoldingsValueFits deps env s info.sender →
    ∃ e, execute deps s env info (.borrow amount) = .error e ∧ IsArithmeticOverflow e

/-- The debt of a loan of `b` is at most the margin rate of what `b` holds. -/
structure LoanCovered (deps : Deps) (env : Env) (s : PoolStorage) (b : Addr) (amount : Uint128)
    (r : ReserveStateV1) (debt : DebtAfterBorrow) (prices : PriceMap) (debtUsd : Decimal256) :
    Prop where
  accrued : AccruedTo s env.blockTime r
  debt_eq : debtAfterBorrow (s.getScaledBorrow b) amount r.borrowIndex = .ok debt
  prices_eq : getAssetPricesForBorrower deps env.blockTime s.contract
    (s.getBorrowerCollateral b) = .ok prices
  debtUsd_eq : calculateBorrowValueUsd debt.debtAfter s.contract.lendingDenom.name prices =
    .ok debtUsd
  covered : ∀ total, calculateTotalCollateralValueUsd (s.getBorrowerCollateral b) prices
      s.contract.supportedCollateralAssets = .ok total →
    debtUsd.atomics * decimalFractional ≤ total.atomics * s.contract.marginRate.atomics

/-- A debt value that is at most the margin rate of the collateral value has a ratio of at most
that. -/
theorem calculateLtv_within {contract : ContractStateV1} {prices : PriceMap}
    {collateral : Amounts} {debt : Uint128} {debtUsd total : Decimal256}
    (hdebt : calculateBorrowValueUsd debt contract.lendingDenom.name prices = .ok debtUsd)
    (htotal : calculateTotalCollateralValueUsd collateral prices
      contract.supportedCollateralAssets = .ok total)
    (hle : debtUsd.atomics * decimalFractional ≤ total.atomics * contract.marginRate.atomics) :
    ∃ ltv, calculateLtv contract contract.supportedCollateralAssets prices collateral debt =
      .ok ltv ∧ ltv ≤ contract.marginRate := by
  unfold calculateLtv
  rw [hdebt, htotal]
  by_cases hnone : total.atomics = 0
  · have hfree : debtUsd.atomics = 0 := by
      rw [hnone, Nat.zero_mul] at hle
      exact (Nat.mul_eq_zero.mp (Nat.le_zero.mp hle)).resolve_right (by decide)
    refine ⟨Decimal256.zero, ?_, Nat.zero_le _⟩
    simp [bind, Except.bind, Decimal256.isZero, hnone, hfree]
    rfl
  · have hquotient : debtUsd.atomics * decimalFractional / total.atomics ≤
        contract.marginRate.atomics := by
      rw [Nat.div_le_iff_le_mul_add_pred (Nat.pos_of_ne_zero hnone)]
      omega
    have hlt := Nat.lt_of_le_of_lt hquotient contract.marginRate.isLt
    refine ⟨⟨_, hlt⟩, ?_, hquotient⟩
    simp [bind, Except.bind, Decimal256.isZero, hnone, Decimal256.checkedDiv_eq_ok]

/-- A ratio is computed only of holdings that can be valued. -/
theorem BorrowLtv.holdingsValueFits {deps : Deps} {env : Env} {s : PoolStorage} {b : Addr}
    {amount : Uint128} {ltv : Decimal256} (h : BorrowLtv s deps env b amount ltv) :
    HoldingsValueFits deps env s b := by
  intro prices' hprices'
  obtain ⟨r, debt, prices, -, -, hprices, hcomputed⟩ := h
  obtain rfl : prices = prices' := Except.ok.inj (hprices.symm.trans hprices')
  simp only [calculateLtv, bind_eq_ok] at hcomputed
  obtain ⟨_, -, total, htotal, -⟩ := hcomputed
  exact ⟨total, htotal⟩

namespace LoanCovered

variable {deps : Deps} {env : Env} {s : PoolStorage} {b : Addr} {amount : Uint128}
  {r : ReserveStateV1} {debt : DebtAfterBorrow} {prices : PriceMap} {debtUsd : Decimal256}

/-- The ratio is computed when the holdings are valued, and it is at most the margin rate. -/
theorem exists_ltv (h : LoanCovered deps env s b amount r debt prices debtUsd)
    (hfits : HoldingsValueFits deps env s b) :
    ∃ ltv, BorrowLtv s deps env b amount ltv ∧ ltv ≤ s.contract.marginRate := by
  obtain ⟨total, htotal⟩ := hfits prices h.prices_eq
  obtain ⟨ltv, hltv, hle⟩ := calculateLtv_within h.debtUsd_eq htotal (h.covered total htotal)
  exact ⟨ltv, ⟨r, debt, prices, h.accrued, h.debt_eq, h.prices_eq, hltv⟩, hle⟩

/-- Otherwise the valuation has overflowed. -/
theorem onlyOverflows (h : LoanCovered deps env s b amount r debt prices debtUsd) :
    OnlyOverflows (calculateLtv s.contract s.contract.supportedCollateralAssets prices
      (s.getBorrowerCollateral b) debt.debtAfter) := by
  intro e he
  cases htotal : calculateTotalCollateralValueUsd (s.getBorrowerCollateral b) prices
      s.contract.supportedCollateralAssets with
  | ok total =>
    obtain ⟨ltv, hltv, -⟩ := calculateLtv_within h.debtUsd_eq htotal (h.covered total htotal)
    rw [hltv] at he
    cases he
  | error e' =>
    rw [calculateLtv, h.debtUsd_eq, htotal] at he
    cases he
    exact onlyOverflows_collateralValue _ _ _ htotal

/-- So the health check does not stand in the way of the loan. -/
theorem passes {info : MessageInfo} (hreach : Reachable s)
    (h : LoanCovered deps env s info.sender amount r debt prices debtUsd) :
    BorrowPassesHealthCheck deps env s info amount := by
  have hle : ∀ ltv, BorrowLtv s deps env info.sender amount ltv →
      ltv ≤ s.contract.marginRate := by
    intro ltv hltv
    obtain ⟨ltv', hltv', hmargin⟩ := h.exists_ltv hltv.holdingsValueFits
    rwa [hltv.unique hltv']
  have hiff : IsOk (execute deps s env info (.borrow amount)) ↔
      BorrowAllowed s deps env info amount ∧ HoldingsValueFits deps env s info.sender := by
    rw [borrow_isOk_iff hreach]
    constructor
    · rintro ⟨hallowed, ltv, hltv, -⟩
      exact ⟨hallowed, hltv.holdingsValueFits⟩
    · rintro ⟨hallowed, hfits⟩
      exact ⟨hallowed, h.exists_ltv hfits⟩
  refine ⟨hle, hiff, fun hallowed hoverflow => ?_⟩
  have hall : OnlyOverflows (execute deps s env info (.borrow amount)) := by
    refine hallowed.allErrors (P := IsArithmeticOverflow) hreach ?_ ?_ hle
    · rw [h.prices_eq]
      exact allErrors_ok
    · intro r' debt' prices' hr' hdebt' hprices'
      obtain rfl : r' = r := Except.ok.inj (hr'.symm.trans h.accrued)
      obtain rfl : debt' = debt := Except.ok.inj (hdebt'.symm.trans h.debt_eq)
      obtain rfl : prices' = prices := Except.ok.inj (hprices'.symm.trans h.prices_eq)
      exact h.onlyOverflows
  cases hresult : execute deps s env info (.borrow amount) with
  | ok out => exact absurd (hiff.mp ⟨out, hresult⟩).2 hoverflow
  | error e => exact ⟨e, rfl, hall e hresult⟩

end LoanCovered

/-! ## The deposits -/

/-- The coins of a run of deposits. -/
def deposited (ts : List (Transition PoolStorage Event)) : List Coin :=
  ts.flatMap (·.label.info.funds)

/-- Deposits of `b` add their coins to what `b` holds, and change nothing else but the
totals by asset. -/
theorem deposits_spec {b : Addr} {s s' : PoolStorage} {ts : List (Transition PoolStorage Event)}
    (run : Run PoolStep s ts s')
    (hdeposits : ∀ x ∈ ts, x.label.msg = .addCollateral ∧ x.label.info.sender = b) :
    Added (s.getBorrowerCollateral b) (deposited ts) (s'.getBorrowerCollateral b) ∧
      s' = { s with
        borrowerCollateral := s'.borrowerCollateral
        totalCollateralByAsset := s'.totalCollateralByAsset } := by
  induction run with
  | nil => exact ⟨Added.nil _, rfl⟩
  | @snoc ts s s' e _ hstep ih =>
    obtain ⟨hadded, hs⟩ := ih fun x hx => hdeposits x (List.mem_append_left _ hx)
    obtain ⟨hmsg, hsender⟩ := hdeposits ⟨s, e, s'⟩
      (List.mem_append_right _ (List.mem_singleton_self _))
    have hd : dispatch e.deps s e.env e.info e.msg = .ok (s', e.response) := execute_eq_ok hstep
    rw [hmsg] at hd
    obtain ⟨held, totals, -, hheld, -, hs', -⟩ := addCollateral_spec hd
    rw [hsender] at hheld hs'
    have hafter : s'.getBorrowerCollateral b = held := by
      rw [hs']
      exact (PoolStorage.getBorrowerCollateral_set s _ _ _).trans (if_pos rfl)
    refine ⟨?_, ?_⟩
    · rw [deposited, List.flatMap_append, hafter]
      apply hadded.append
      simpa using hheld
    · rw [hs', hs]
      rfl

/-! ## A quote suffices -/

section Sufficient

variable {deps deps' : Deps} {s s' : PoolStorage} {env env' : Env} {b : Addr} {amount : Uint128}
  {assets : List String} {ts : List (Transition PoolStorage Event)}

theorem exists_dropUnpriceableCollateral {stored : PriceMap} {lendingDenom : String}
    {now : Timestamp} {p : AssetPriceResponseV1} (hp : stored[lendingDenom]? = some p)
    (hfresh : p.isStale now = false) :
    ∃ prices, dropUnpriceableCollateral stored lendingDenom now = .ok prices := by
  unfold dropUnpriceableCollateral
  rw [hp]
  simp only [bind_eq_ok, okOr_eq_ok, ensure_eq_ok, exists_const, pure_eq_ok, Option.some.injEq]
  exact ⟨_, p, rfl, hfresh, rfl⟩

/-- A holding has an entry only for what it holds some of, or what was just added. -/
theorem Added.mem_keys {m m' : Amounts} {coins : List Coin} (h : Added m coins m')
    (hm' : NoNull Uint.isZero m') {a : String} (ha : a ∈ m'.keys) :
    a ∈ m.keys ∨ coinsOf a coins ≠ 0 := by
  rw [Std.ExtTreeMap.mem_keys, Std.ExtTreeMap.mem_iff_isSome_getElem?,
    Option.isSome_iff_exists] at ha
  obtain ⟨v, hv⟩ := ha
  have hpos : (amountOf m' a).val ≠ 0 := by
    intro hzero
    have hnull := hm' a v hv
    rw [amountOf, hv, Option.getD_some] at hzero
    rw [Uint.isZero_iff.mpr hzero] at hnull
    cases hnull
  rw [h.amounts a] at hpos
  by_cases hheld : (amountOf m a).val = 0
  · exact Or.inr (by omega)
  · exact Or.inl (List.mem_toFinset.mp (mem_assetSet hheld))

/-- Deposits at quotes that cover the additional value are enough. -/
theorem exists_loanCovered {q : CollateralQuote} (denoms : Finset String)
    (hreach : Reachable s) (hamount : amount.val ≠ 0)
    (hquote : collateralQuote deps s env (some b) amount assets = .ok q)
    (run : Run PoolStep s ts s')
    (hdeposits : ∀ x ∈ ts, x.label.msg = .addCollateral ∧ x.label.info.sender = b)
    (htime : env'.blockTime = env.blockTime)
    (horacle : ∀ a, deps'.oraclePrice s.contract.priceOracleAddress a =
      deps.oraclePrice s.contract.priceOracleAddress a)
    (hanswered : ∀ a, coinsOf a (deposited ts) ≠ 0 →
      ∃ quote, deps.oraclePrice s.contract.priceOracleAddress a = .ok quote)
    (hcover : q.valueToCover.atomics ≤
      ∑ a ∈ denoms, freshValue deps env.blockTime s.contract a (coinsOf a (deposited ts))) :
    ∃ r debt prices debtUsd, LoanCovered deps' env' s' b amount r debt prices debtUsd := by
  obtain ⟨r, debt, stored, prices, debtUsd, quote⟩ := collateralQuote_spec hamount hquote
  obtain ⟨hadded, hs'⟩ := deposits_spec run hdeposits
  have hreach' : Reachable s' := run.invariant (fun _ _ _ h => h.step) hreach
  have hcontract : s'.contract = s.contract := by rw [hs']
  have hsame (a : String) : deps'.storedQuote s.contract.priceOracleAddress a =
      deps.storedQuote s.contract.priceOracleAddress a := by
    unfold Deps.storedQuote
    rw [horacle]
  have hquoted (a : String) (ha : a = s.contract.lendingDenom.name ∨ a ∈ assets ∨
      a ∈ (s.getBorrowerCollateral b).keys) :
      stored[a]? = deps.storedQuote s.contract.priceOracleAddress a := by
    rw [getPriceFromOracle_getElem? quote.stored_eq, if_pos (mem_requirementAssetIds.mpr ha)]
  -- The oracle answers for everything that is held after the deposits.
  have hanswers := getPriceFromOracle_isOk_iff.mp ⟨stored, quote.stored_eq⟩
  obtain ⟨stored', hstored'⟩ : ∃ m, getPriceFromOracle deps' s.contract.priceOracleAddress
      (pricedAssetIds s.contract (s'.getBorrowerCollateral b)) true = .ok m := by
    refine getPriceFromOracle_isOk_iff.mpr fun a ha => ?_
    rw [horacle]
    rcases List.mem_cons.mp ha with hlending | hkey
    · exact hanswers a (mem_requirementAssetIds.mpr (Or.inl hlending))
    · rcases hadded.mem_keys (hreach'.collateralLedger.holdings_noZero b) hkey with hheld | hnew
      · exact hanswers a (mem_requirementAssetIds.mpr (Or.inr (Or.inr hheld)))
      · exact hanswered a hnew
  have hquoted' (a : String) (ha : a ∈ pricedAssetIds s.contract (s'.getBorrowerCollateral b)) :
      stored'[a]? = deps.storedQuote s.contract.priceOracleAddress a := by
    rw [getPriceFromOracle_getElem? hstored', if_pos ha, hsame]
  obtain ⟨p, hp, hfresh, hlending⟩ := quote.prices_eq.lending
  have hp' : stored'[s.contract.lendingDenom.name]? = some p := by
    rw [hquoted' _ List.mem_cons_self, ← hquoted _ (Or.inl rfl)]
    exact hp
  obtain ⟨prices', hprices'⟩ := exists_dropUnpriceableCollateral hp' hfresh
  have hborrow := dropUnpriceableCollateral_spec hprices'
  have hlending' : prices'[s.contract.lendingDenom.name]? =
      prices[s.contract.lendingDenom.name]? := by
    obtain ⟨p', hstored, -, hprice⟩ := hborrow.lending
    rw [hp'] at hstored
    rw [hlending, hprice, Option.some.inj hstored]
  refine ⟨r, debt, prices', debtUsd, ?_, ?_, ?_, ?_, fun total htotal => ?_⟩
  · rw [htime, hs']
    exact quote.accrued
  · rw [hs']
    exact quote.debt_eq
  · unfold getAssetPricesForBorrower
    rw [hcontract, htime, hstored']
    exact hprices'
  · unfold calculateBorrowValueUsd
    rw [hcontract, hlending']
    exact quote.debtUsd_eq
  · rw [hcontract] at htotal ⊢
    have hvalue := (freshValue_valuation deps env.blockTime s.contract).added_le hadded denoms
    rw [← collateralValue_eq_freshValue hborrow
        fun a ha => hquoted' a (List.mem_cons_of_mem _ ha),
      ← collateralValue_eq_freshValue quote.prices_eq
        fun a ha => hquoted a (Or.inr (Or.inr ha)),
      ← calculateTotalCollateralValueUsd_eq htotal] at hvalue
    have hrequired : q.requiredCollateralValueUsd.atomics ≤ total.atomics := by
      have htoCover := quote.toCover_eq
      omega
    calc debtUsd.atomics * decimalFractional
        ≤ q.requiredCollateralValueUsd.atomics * s.contract.marginRate.atomics :=
          quote.required_ge
      _ ≤ total.atomics * s.contract.marginRate.atomics := Nat.mul_le_mul_right _ hrequired

/-- The oracle answers for an asset that has a fresh quote. -/
theorem Deps.freshQuote_answered {oracle : Addr} {now : Timestamp} {a : String}
    {p : AssetPriceResponseV1} (h : deps.freshQuote oracle now a = some p) :
    ∃ quote, deps.oraclePrice oracle a = .ok quote := by
  unfold freshQuote storedQuote at h
  cases hquote : deps.oraclePrice oracle a with
  | error e =>
    rw [hquote] at h
    cases h
  | ok quote => exact ⟨quote, rfl⟩

/-- When the query succeeds for a borrower and a new loan, the health check of `Borrow` does not
stand in the way of the loan in the same block, after deposits of exactly the quoted amount of
one satisfiable row, or of any coins with fresh quotes whose values, each truncated on its own,
add up to the additional value. -/
theorem collateral_quote_sufficient {response : CollateralRequirementsResponseV1}
    (hreach : Reachable s) (hamount : amount.val ≠ 0)
    (hquery : queryCollateralRequirements deps s env (some b) amount assets = .ok response)
    (run : Run PoolStep s ts s')
    (hdeposits : ∀ x ∈ ts, x.label.msg = .addCollateral ∧ x.label.info.sender = b)
    (htime : env'.blockTime = env.blockTime)
    (horacle : ∀ a, deps'.oraclePrice s.contract.priceOracleAddress a =
      deps.oraclePrice s.contract.priceOracleAddress a) {info : MessageInfo}
    (hsender : info.sender = b) :
    ∃ quote, collateralQuote deps s env (some b) amount assets = .ok quote ∧
      response = quote.toResponse ∧
      (∀ row ∈ response.required, row.satisfiable = true →
        (∀ a, coinsOf a (deposited ts) = if a = row.assetId then row.amount.val else 0) →
        BorrowPassesHealthCheck deps' env' s' info amount) ∧
      ((∀ c ∈ deposited ts, ∃ p,
          deps.freshQuote s.contract.priceOracleAddress env.blockTime c.denom = some p) →
        quote.valueToCover.atomics ≤ ((deposited ts).map fun c =>
          freshValue deps env.blockTime s.contract c.denom c.amount.val).sum →
        BorrowPassesHealthCheck deps' env' s' info amount) := by
  subst hsender
  have hreach' : Reachable s' := run.invariant (fun _ _ _ h => h.step) hreach
  simp only [queryCollateralRequirements, bind_eq_ok, pure_eq_ok] at hquery
  obtain ⟨q, hq, rfl⟩ := hquery
  have hpasses (hloan : ∃ r debt prices debtUsd,
      LoanCovered deps' env' s' info.sender amount r debt prices debtUsd) :
      BorrowPassesHealthCheck deps' env' s' info amount := by
    obtain ⟨r, debt, prices, debtUsd, hcovered⟩ := hloan
    exact hcovered.passes hreach'
  refine ⟨q, hq, rfl, fun row hrow hsatisfiable hexact => ?_, fun hfresh hsum => ?_⟩
  · obtain ⟨r, debt, stored, prices, debtUsd, quote⟩ := collateralQuote_spec hamount hq
    obtain ⟨a, ha, hrequirement⟩ := quote.rows row hrow
    have hin : a ∈ requirementAssetIds s.contract.lendingDenom.name assets
        (s.getBorrowerCollateral info.sender).keys :=
      mem_requirementAssetIds.mpr (Or.inr (Or.inl ha))
    have hstored : stored[a]? = deps.storedQuote s.contract.priceOracleAddress a := by
      rw [getPriceFromOracle_getElem? quote.stored_eq, if_pos hin]
    obtain ⟨hid, hcovers⟩ := assetRequirement_covers quote.prices_eq hstored hrequirement
      hsatisfiable
    refine hpasses (exists_loanCovered {a} hreach hamount hq run hdeposits htime horacle
      (fun x hx => ?_) ?_)
    · have hxa : x = a := by
        by_contra hne
        rw [hexact, hid, if_neg hne] at hx
        exact hx rfl
      rw [hxa]
      exact getPriceFromOracle_isOk_iff.mp ⟨stored, quote.stored_eq⟩ a hin
    · rw [Finset.sum_singleton, hexact, hid, if_pos rfl]
      exact hcovers
  · refine hpasses (exists_loanCovered ((deposited ts).map (·.denom)).toFinset hreach hamount hq
      run hdeposits htime horacle (fun a ha => ?_) ?_)
    · have hcoin : ∃ c ∈ deposited ts, c.denom = a := by
        by_contra hnone
        exact ha (coinsOf_eq_zero fun c hc he => hnone ⟨c, hc, he⟩)
      obtain ⟨c, hc, rfl⟩ := hcoin
      obtain ⟨p, hp⟩ := hfresh c hc
      exact Deps.freshQuote_answered hp
    · apply Nat.le_trans hsum
      apply (freshValue_valuation deps env.blockTime s.contract).coins_le
      intro c hc
      exact List.mem_toFinset.mpr (List.mem_map_of_mem hc)

end Sufficient

namespace Demo

/-- Alice asks what a loan of 200 more needs, in gold. -/
def quoteForAlice (s : PoolStorage) : ContractResult CollateralRequirementsResponseV1 :=
  queryCollateralRequirements (deps 10) s (env 0) (some "alice") 200 ["gold"]

/-- She needs twelve units of gold, deposits them, and gets the loan. -/
def topUpCheck (s : PoolStorage) : Bool :=
  match quoteForAlice s, fire (call "alice" [⟨"gold", 12⟩] .addCollateral) s with
  | .ok response, .ok x => decide (response.required = [.quoted "gold" 12]) &&
      (execute (deps 10) x.1 (env 0) ⟨"alice", []⟩ (.borrow 200)).isOk
  | _, _ => false

theorem topUp_ok :
    replayCheck (deps 10) (env 0) ⟨"owner", []⟩ msg opening topUpCheck = true := by
  decide +kernel

end Demo

/-- Alice deposits what the quote asks for, and may borrow 200 more. -/
theorem collateral_quote_sufficient_gold :
    ∃ s s' : PoolStorage,
      BorrowPassesHealthCheck (Demo.deps 10) (Demo.env 0) s' ⟨"alice", []⟩ 200 ∧
      BorrowAllowed s' (Demo.deps 10) (Demo.env 0) ⟨"alice", []⟩ 200 ∧
      (amountOf (s'.getBorrowerCollateral "alice") "gold").val =
        (amountOf (s.getBorrowerCollateral "alice") "gold").val + 12 := by
  obtain ⟨s₀, ts, s, hdeployed, run, -, hcheck⟩ := exists_run Demo.topUp_ok
  have hreach : Reachable s := ⟨_, s₀, ts, hdeployed, run⟩
  unfold Demo.topUpCheck at hcheck
  split at hcheck
  · rename_i response x hquery hfire
    simp only [Bool.and_eq_true, decide_eq_true_eq, isOk_iff] at hcheck
    obtain ⟨hrows, hborrow⟩ := hcheck
    obtain ⟨hstep, he⟩ := fire_step hfire
    have deposit : Run PoolStep s [⟨s, x.2, x.1⟩] x.1 := Run.single hstep
    have hdeposits : ∀ y ∈ [(⟨s, x.2, x.1⟩ : Transition PoolStorage Event)],
        y.label.msg = .addCollateral ∧ y.label.info.sender = "alice" := by
      intro y hy
      rw [List.mem_singleton.mp hy, he]
      exact ⟨rfl, rfl⟩
    have hcoins : deposited [(⟨s, x.2, x.1⟩ : Transition PoolStorage Event)] = [⟨"gold", 12⟩] := by
      simp only [deposited, List.flatMap_cons, List.flatMap_nil, List.append_nil, he]
      rfl
    have htime : (Demo.env 0).blockTime = (Demo.env 0).blockTime := rfl
    have horacle : ∀ a, (Demo.deps 10).oraclePrice s.contract.priceOracleAddress a =
        (Demo.deps 10).oraclePrice s.contract.priceOracleAddress a := fun _ => rfl
    have hsender : (⟨"alice", []⟩ : MessageInfo).sender = "alice" := rfl
    obtain ⟨quote, -, -, hexact, -⟩ := collateral_quote_sufficient hreach (by decide) hquery
      deposit hdeposits htime horacle hsender
    have hpasses : BorrowPassesHealthCheck (Demo.deps 10) (Demo.env 0) x.1 ⟨"alice", []⟩ 200 := by
      refine hexact (.quoted "gold" 12) ?_ rfl fun a => ?_
      · rw [hrows]
        exact List.mem_singleton_self _
      · rw [hcoins]
        by_cases ha : a = "gold"
        · rw [ha]
          rfl
        · rw [coinsOf_eq_zero (by simpa using Ne.symm ha)]
          exact (if_neg ha).symm
    refine ⟨s, x.1, hpasses, (hpasses.isOk_iff.mp hborrow).1, ?_⟩
    rw [(deposits_spec deposit hdeposits).1.amounts, hcoins]
    rfl
  · cases hcheck

namespace Demo

/-- Gold costs `8 · 10 ^ 20` dollars. -/
def dearGold : Deps := deps (8 * 10 ^ 20)

/-- An amount of gold whose value is just within 256 bits. -/
def hoard : Uint128 := ⟨10 ^ 38, by decide⟩

/-- Alice deposits it. -/
def depositHoard : Call := call "alice" [⟨"gold", hoard⟩] .addCollateral

/-- Alice asks what a loan of 200 needs, and makes two deposits that each cover it.  Everything
but the health check would let her have the loan, as the price of ten dollars shows. -/
def hoardCheck (s : PoolStorage) : Bool :=
  match collateralQuote dearGold s (env 0) (some "alice") 200 ["gold"],
      replayCalls s [depositHoard, depositHoard] with
  | .ok q, .ok (_, s') =>
    ((dearGold.freshQuote s.contract.priceOracleAddress (env 0).blockTime "gold").any fun p =>
        (p.valueUsd hoard).isOk) &&
      decide (q.valueToCover.atomics ≤
        freshValue dearGold (env 0).blockTime s.contract "gold" hoard.val) &&
      decide (validateBorrowerAttrs dearGold "alice" s'.contract.borrowerRequiredAttrs = .ok ()) &&
      (execute (deps 10) s' (env 0) ⟨"alice", []⟩ (.borrow 200)).isOk &&
      !(execute dearGold s' (env 0) ⟨"alice", []⟩ (.borrow 200)).isOk
  | _, _ => false

theorem hoard_ok : replayCheck (deps 10) (env 0) ⟨"owner", []⟩ msg
    [call "lender" [⟨"usd", 1000⟩] .lend] hoardCheck = true := by
  decide +kernel

end Demo

/-- The values of the deposits are computed one by one, and the holdings are valued together: two
deposits of gold that each cover the quote are worth more than 256 bits hold, and the loan is
refused. -/
theorem collateral_quote_overflows :
    ¬ ∀ (deps : Deps) (s s' : PoolStorage) (env : Env) (info : MessageInfo) (amount : Uint128)
        (assets : List String) (quote : CollateralQuote)
        (ts : List (Transition PoolStorage Event)),
      Reachable s → amount.val ≠ 0 →
      collateralQuote deps s env (some info.sender) amount assets = .ok quote →
      Run PoolStep s ts s' →
      (∀ x ∈ ts, x.label.msg = .addCollateral ∧ x.label.info.sender = info.sender) →
      (∀ c ∈ deposited ts, ∃ p, deps.freshQuote s.contract.priceOracleAddress env.blockTime
        c.denom = some p ∧ IsOk (p.valueUsd c.amount)) →
      quote.valueToCover.atomics ≤ ((deposited ts).map fun c =>
        freshValue deps env.blockTime s.contract c.denom c.amount.val).sum →
      BorrowAllowed s' deps env info amount →
      IsOk (execute deps s' env info (.borrow amount)) := by
  intro claim
  obtain ⟨s₀, ts₀, s, hdeployed, run₀, -, hcheck⟩ := exists_run Demo.hoard_ok
  have hreach : Reachable s := ⟨_, s₀, ts₀, hdeployed, run₀⟩
  unfold Demo.hoardCheck at hcheck
  split at hcheck
  · rename_i quote ts s' hquote hreplay
    simp only [Bool.and_eq_true, decide_eq_true_eq, isOk_iff, Bool.not_eq_true',
      Option.any_eq_true] at hcheck
    obtain ⟨⟨⟨⟨⟨p, hp, hvalue⟩, hcover⟩, hattrs⟩, hcheap⟩, hdear⟩ := hcheck
    obtain ⟨run, hcalls⟩ : Run PoolStep s ts s' ∧
        ts.map (fun x => x.label.toCall) = [Demo.depositHoard, Demo.depositHoard] :=
      replay_run (fun _ _ => rfl) (fun _ _ _ _ h => h) hreplay
    have hdeposits : ∀ x ∈ ts, x.label.toCall = Demo.depositHoard := by
      intro x hx
      have hmem : x.label.toCall ∈ [Demo.depositHoard, Demo.depositHoard] := by
        rw [← hcalls]
        exact List.mem_map_of_mem hx
      simpa using hmem
    have hcoins : deposited ts = [⟨"gold", Demo.hoard⟩, ⟨"gold", Demo.hoard⟩] := by
      have hfunds := congrArg (List.flatMap fun c : Call => c.info.funds) hcalls
      rw [List.flatMap_map] at hfunds
      exact hfunds
    have hallowed : BorrowAllowed s' Demo.dearGold (Demo.env 0) ⟨"alice", []⟩ 200 := by
      obtain ⟨⟨s'', res⟩, hborrow⟩ := hcheap
      exact { (borrowAllowed_of_isOk hborrow).1 with attrs := hattrs }
    have hborrow := claim Demo.dearGold s s' (Demo.env 0) ⟨"alice", []⟩ 200 ["gold"] quote ts
      hreach (by decide) hquote run ?_ ?_ ?_ hallowed
    · rw [← isOk_iff, hdear] at hborrow
      cases hborrow
    · intro x hx
      have hcall := hdeposits x hx
      exact ⟨congrArg Call.msg hcall, congrArg (fun c : Call => c.info.sender) hcall⟩
    · intro c hc
      rw [hcoins] at hc
      obtain rfl : c = ⟨"gold", Demo.hoard⟩ := by simpa using hc
      exact ⟨p, hp, hvalue⟩
    · rw [hcoins]
      exact Nat.le_trans hcover (Nat.le_add_right _ _)
  · cases hcheck

end DemocratizedPrime
