import DemocratizedPrime.Pool.Accrual

/-!
# The query of the reserve

`queryReserve` answers with the reserve as an accrual of this block would leave it, and
with the rates there.  Decimals and amounts are sent as text.  Nothing is saved.
-/

namespace DemocratizedPrime

open Result

/-- The reserve with its amounts as texts. -/
structure ReserveStateResponseV1 where
  liquidityIndex : String
  borrowIndex : String
  lastUpdatedAt : Timestamp
  totalScaledLiquidity : String
  totalScaledBorrow : String
  accruedReserve : String
  deficitUnderlying : String
  totalLiquidity : String
  totalBorrow : String

/-- The answer: the reserve, and its rates. -/
structure ReserveResponseV1 where
  reserve : ReserveStateResponseV1
  currentBorrowerRate : String
  currentLenderRate : String
  utilization : String

/-- The reserve as texts; the totals may not fit. -/
def ReserveStateResponseV1.tryFrom (r : ReserveStateV1) :
    ContractResult ReserveStateResponseV1 := do
  let totalLiquidity ← r.totalLiquidity
  let totalBorrow ← r.totalBorrow
  return {
    liquidityIndex := r.liquidityIndex.toText
    borrowIndex := r.borrowIndex.toText
    lastUpdatedAt := r.lastUpdatedAt
    totalScaledLiquidity := toString r.totalScaledLiquidity
    totalScaledBorrow := toString r.totalScaledBorrow
    accruedReserve := toString r.accruedReserve
    deficitUnderlying := toString r.deficitUnderlying
    totalLiquidity := totalLiquidity.toText
    totalBorrow := totalBorrow.toText }

/-- `query_reserve`: the reserve as of the block. -/
def queryReserve (store : PoolStorage) (env : Env) : ContractResult ReserveResponseV1 := do
  let contract := store.contract
  let reserve ← computeEffectiveReserve store env.blockTime contract.rateParams
  let utilization ← reserve.utilization
  let currentBorrowerRate ← borrowerRateFromUtilization contract.rateParams utilization
  let currentLenderRate ← lenderRateFromUtilization contract.rateParams utilization
    currentBorrowerRate
  let reserve ← ReserveStateResponseV1.tryFrom reserve
  return {
    reserve
    currentBorrowerRate := currentBorrowerRate.toText
    currentLenderRate := currentLenderRate.toText
    utilization := utilization.toText }

/-- The answer is about the reserve that an accrual would save. -/
theorem queryReserve_reserve {s : PoolStorage} {env : Env} {answer : ReserveResponseV1}
    (h : queryReserve s env = .ok answer) :
    ∃ r, AccruedTo s env.blockTime r ∧ ReserveStateResponseV1.tryFrom r = .ok answer.reserve := by
  simp only [queryReserve, bind_eq_ok, pure_eq_ok] at h
  obtain ⟨r, hr, u, -, br, -, lr, -, state, hstate, rfl⟩ := h
  exact ⟨r, hr, hstate⟩

/-- The index of the answer is the index that an accrual would save. -/
theorem queryReserve_spec {s : PoolStorage} {env : Env} {answer : ReserveResponseV1}
    (h : queryReserve s env = .ok answer) :
    ∃ r, AccruedTo s env.blockTime r ∧
      answer.reserve.liquidityIndex = r.liquidityIndex.toText := by
  simp only [queryReserve, ReserveStateResponseV1.tryFrom, bind_eq_ok, pure_eq_ok] at h
  obtain ⟨r, hr, u, -, br, -, lr, -, state, ⟨l, -, b, -, rfl⟩, rfl⟩ := h
  exact ⟨r, hr, rfl⟩

end DemocratizedPrime
