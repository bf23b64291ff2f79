import DemocratizedPrime.Pool.Invariants.CollateralLedger
import DemocratizedPrime.Pool.Query.CollateralRequirements
import DemocratizedPrime.Pool.Query.Reserve
import DemocratizedPrime.CosmWasm.DecimalText
import DemocratizedPrime.Pool.Replay

/-!
# The query of the state

`queryState` answers with the configuration, the reserve as `queryReserve` shows it, and a
table of what the pool holds of each supported asset.

The reserve is sent as text, and `ReserveStateV1.ofResponse` is how a client reads it back.
What it cannot read it takes for zero.  Of an answer of the pool it can read everything
(`ofResponse_tryFrom`), so no zero is made up.

The table is read off the counters of the collateral.  In a reachable state it says what
all borrowers hold together, and leaves nothing out (`state_answer_exact`).
-/

namespace DemocratizedPrime

open Result TreeMap Transitions

/-! ## The reserve, read back -/

/-- `u128::from_str`. -/
def parseUint128 (text : String) : Option Uint128 :=
  (parseUint256 text.toList).bind (Uint.ofNat? 128)

/-- The reserve of an answer, with zero for what cannot be read. -/
def ReserveStateV1.ofResponse (r : ReserveStateResponseV1) : ReserveStateV1 where
  liquidityIndex := (Decimal256.fromStr r.liquidityIndex).toOption.getD Decimal256.zero
  borrowIndex := (Decimal256.fromStr r.borrowIndex).toOption.getD Decimal256.zero
  lastUpdatedAt := r.lastUpdatedAt
  totalScaledLiquidity := (parseUint128 r.totalScaledLiquidity).getD 0
  totalScaledBorrow := (parseUint128 r.totalScaledBorrow).getD 0
  accruedReserve := (parseUint128 r.accruedReserve).getD 0
  deficitUnderlying := (parseUint128 r.deficitUnderlying).getD 0

/-- A number is read as it was written. -/
theorem parseUint128_toString (a : Uint128) : parseUint128 (toString a) = some a := by
  have htext : (toString a).toList = Nat.toDigits 10 a.val := Nat.toList_repr
  have hlt : a.val < 2 ^ 256 := Nat.lt_trans a.isLt (by norm_num)
  unfold parseUint128
  rw [htext, Decimal256.parseUint256_toDigits hlt, Option.bind_some]
  exact Uint.ofNat?_eq_some.mpr rfl

/-- Of what the pool answers everything can be read. -/
theorem ReserveStateV1.ofResponse_tryFrom {r : ReserveStateV1} {answer : ReserveStateResponseV1}
    (h : ReserveStateResponseV1.tryFrom r = .ok answer) :
    ofResponse answer = r ∧
      fromStd (Decimal256.fromStr answer.totalLiquidity) = r.totalLiquidity ∧
      fromStd (Decimal256.fromStr answer.totalBorrow) = r.totalBorrow := by
  simp only [ReserveStateResponseV1.tryFrom, bind_eq_ok, pure_eq_ok] at h
  obtain ⟨liquidity, hliquidity, borrow, hborrow, rfl⟩ := h
  refine ⟨?_, ?_, ?_⟩
  · simp only [ofResponse, Decimal256.fromStr_toText, parseUint128_toString]
    rfl
  · rw [hliquidity, Decimal256.fromStr_toText]
    rfl
  · rw [hborrow, Decimal256.fromStr_toText]
    rfl

/-! ## The query -/

/-- The answer: the configuration, the reserve, and the collateral that is held. -/
structure StateResponseV1 where
  contract : ContractStateV1
  reserve : ReserveStateResponseV1
  supportedCollateral : List CollateralAssetV1
  totalCollateralHeld : List AssetRequirementV1

/-- `query_state`: the reserve is as of the block. -/
def queryState (store : PoolStorage) (env : Env) : ContractResult StateResponseV1 := do
  let contract := store.contract
  let reserve ← computeEffectiveReserve store env.blockTime contract.rateParams
  let totalCollateralHeld := contract.supportedCollateralAssets.map fun a =>
    AssetRequirementV1.quoted a.assetId (store.getTotalCollateralByAsset a.assetId)
  let supportedCollateral := contract.supportedCollateralAssets
  let reserve ← ReserveStateResponseV1.tryFrom reserve
  return { contract, reserve, supportedCollateral, totalCollateralHeld }

section

variable {s : PoolStorage} {env : Env} {answer : StateResponseV1}

theorem queryState_spec (h : queryState s env = .ok answer) :
    ∃ r, AccruedTo s env.blockTime r ∧ ReserveStateResponseV1.tryFrom r = .ok answer.reserve ∧
      answer.contract = s.contract ∧
      answer.supportedCollateral = s.contract.supportedCollateralAssets ∧
      answer.totalCollateralHeld = (assetIds s.contract.supportedCollateralAssets).map fun a =>
        AssetRequirementV1.quoted a (s.getTotalCollateralByAsset a) := by
  simp only [queryState, bind_eq_ok, pure_eq_ok] at h
  obtain ⟨r, hr, reserve, hreserve, rfl⟩ := h
  refine ⟨r, hr, hreserve, rfl, rfl, ?_⟩
  rw [assetIds, List.map_map]
  rfl

/-- The answer shows the pool as it is: the reserve that an accrual of the block would save,
once it is read back, and what the borrowers hold of every asset. -/
structure StateResponseV1.Shows (answer : StateResponseV1) (s : PoolStorage) (env : Env) :
    Prop where
  contract : answer.contract = s.contract
  reserve : AccruedTo s env.blockTime (.ofResponse answer.reserve)
  totalLiquidity : fromStd (Decimal256.fromStr answer.reserve.totalLiquidity) =
    (ReserveStateV1.ofResponse answer.reserve).totalLiquidity
  totalBorrow : fromStd (Decimal256.fromStr answer.reserve.totalBorrow) =
    (ReserveStateV1.ofResponse answer.reserve).totalBorrow
  sameReserve : ∀ other, queryReserve s env = .ok other → other.reserve = answer.reserve
  rows : answer.totalCollateralHeld.map (·.assetId) = assetIds answer.supportedCollateral
  once : (answer.totalCollateralHeld.map (·.assetId)).Nodup
  amounts : ∀ row ∈ answer.totalCollateralHeld, row.satisfiable = true ∧
    row.amount.val = sumBy (fun m : Amounts => (amountOf m row.assetId).val) s.borrowerCollateral
  complete : ∀ b a, 0 < (amountOf (s.getBorrowerCollateral b) a).val →
    a ∈ answer.totalCollateralHeld.map (·.assetId)

/-- The query answers as long as the interest of the block is computed, and the lenders' claims and
the debt that it leaves are decimals of 256 bits. -/
theorem queryState_isOk_iff : IsOk (queryState s env) ↔ ∃ r, AccruedTo s env.blockTime r ∧
    r.totalScaledLiquidity.val * r.liquidityIndex.atomics < 2 ^ 256 ∧
    r.totalScaledBorrow.val * r.borrowIndex.atomics < 2 ^ 256 := by
  constructor
  · rintro ⟨answer, h⟩
    obtain ⟨r, hr, hreserve, -⟩ := queryState_spec h
    simp only [ReserveStateResponseV1.tryFrom, bind_eq_ok] at hreserve
    obtain ⟨liquidity, hliquidity, borrow, hborrow, -⟩ := hreserve
    refine ⟨r, hr, ?_, ?_⟩
    · rw [← totalLiquidity_eq_ok.mp hliquidity]
      exact liquidity.isLt
    · rw [← totalBorrow_eq_ok.mp hborrow]
      exact borrow.isLt
  · rintro ⟨r, hr, hclaims, hdebt⟩
    have hliquidity : r.totalLiquidity = .ok ⟨_, hclaims⟩ := totalLiquidity_eq_ok.mpr rfl
    have hborrow : r.totalBorrow = .ok ⟨_, hdebt⟩ := totalBorrow_eq_ok.mpr rfl
    refine IsOk.bind hr (IsOk.bind_any ?_ fun _ _ => isOk_pure)
    exact IsOk.bind hliquidity (IsOk.bind hborrow isOk_pure)

theorem queryState_shows (hs : Reachable s) (h : queryState s env = .ok answer) :
    answer.Shows s env := by
  have hledger := hs.collateralLedger
  obtain ⟨r, hr, hreserve, hcontract, hsupported, hheld⟩ := queryState_spec h
  obtain ⟨hread, hliquidity, hborrow⟩ := ReserveStateV1.ofResponse_tryFrom hreserve
  have hrows : answer.totalCollateralHeld.map (·.assetId) =
      assetIds s.contract.supportedCollateralAssets := by
    rw [hheld, List.map_map]
    exact List.map_id _
  refine ⟨hcontract, ?_, ?_, ?_, fun other hother => ?_, ?_, ?_, fun row hrow => ?_,
    fun b a ha => ?_⟩
  · rw [hread]
    exact hr
  · rw [hread, hliquidity]
  · rw [hread, hborrow]
  · obtain ⟨r', hr', hreserve'⟩ := queryReserve_reserve hother
    rw [hr'.unique hr, hreserve] at hreserve'
    exact (Except.ok.inj hreserve').symm
  · rw [hrows, hsupported]
  · rw [hrows]
    exact hledger.list.nodup
  · rw [hheld, List.mem_map] at hrow
    obtain ⟨a, -, rfl⟩ := hrow
    exact ⟨rfl, (hledger.totals a).symm⟩
  · rw [hrows]
    exact supports_iff.mp (hledger.supported b a ha)

/-- Whatever has happened to the pool, `GetState` answers as long as the reserve of the block can
be computed, and shows the pool as it is. -/
theorem state_answer_exact (hs : Reachable s) :
    (IsOk (queryState s env) ↔ ∃ r, AccruedTo s env.blockTime r ∧
      r.totalScaledLiquidity.val * r.liquidityIndex.atomics < 2 ^ 256 ∧
      r.totalScaledBorrow.val * r.borrowIndex.atomics < 2 ^ 256) ∧
    ∀ answer, queryState s env = .ok answer → answer.Shows s env :=
  ⟨queryState_isOk_iff, fun _ h => queryState_shows hs h⟩

end

namespace Demo

/-- A day after Alice has borrowed, `GetState` answers, and gold is held. -/
def shownCheck (s : PoolStorage) : Bool :=
  openingCheck s && (queryState s (env 86400)).isOk

theorem state_answer_exact_opening : ∃ s answer, Reachable s ∧
    queryState s (env 86400) = .ok answer ∧ (s.getTotalCollateralByAsset "gold").val = 100 ∧
      answer.Shows s (env 86400) := by
  have hreplay : replayCheck (deps 10) (env 0) ⟨"owner", []⟩ msg opening shownCheck = true := by
    decide +kernel
  obtain ⟨s₀, ts, s, hdeployed, run, -, hcheck⟩ := exists_run hreplay
  rw [shownCheck, Bool.and_eq_true] at hcheck
  obtain ⟨answer, hanswer⟩ := isOk_iff.mp hcheck.2
  have hs : Reachable s := ⟨_, s₀, ts, hdeployed, run⟩
  exact ⟨s, answer, hs, hanswer, (opening_check hcheck.1).2,
    (state_answer_exact hs).2 answer hanswer⟩

end Demo

end DemocratizedPrime
