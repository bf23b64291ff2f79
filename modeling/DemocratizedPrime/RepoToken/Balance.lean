import DemocratizedPrime.RepoToken.Token
import DemocratizedPrime.Pool.Query.Reserve
import DemocratizedPrime.CosmWasm.DecimalText

/-!
# Balances in the lending denomination

To the outside the token shows underlying amounts.  `Balance` and `TokenInfo` ask the pool
for its reserve, read the liquidity index from the answer, and convert.

The conversion is the token's own, `scaledToUnderlyingFloor`, and computes what the pool's
computes (`scaledToUnderlyingFloor_eq_ok`).
-/

namespace DemocratizedPrime.RepoToken

open Result

/-- The answer of `TokenInfo`. -/
structure TokenInfoResponse where
  name : String
  symbol : String
  decimals : Nat
  totalSupply : Uint128

/-- Scaled units at the pool's index, in whole base units. -/
def scaledToUnderlyingFloor (scaled : Uint128) (liquidityIndex : Decimal256) :
    ContractResult Uint128 :=
  if liquidityIndex.isZero then return 0
  else do
    let scaledD ← Decimal256.fromRatio scaled.val 1
    let underlyingD ← (scaledD.checkedMul liquidityIndex).mapError fun _ =>
      .std "Generic error: Cannot Mul with given operands"
    okOr (Uint.ofNat? 128 (underlyingD.atomics / decimalFractional))
      (.overflow "underlying balance overflow")

section

variable (deps : Deps) (getReserve : Addr → StdResult ReserveResponseV1) (store : TokenStorage)

/-- The liquidity index, from the pool's answer to `GetReserve`. -/
def queryLiquidityIndex (poolAddress : Addr) : ContractResult Decimal256 := do
  let answer ← fromStd (getReserve poolAddress)
  (Decimal256.fromStr answer.reserve.liquidityIndex).mapError fun e =>
    illegalArgument s!"invalid liquidity_index: {e}"

/-- Scaled units in the lending denomination, or as they are without a pool. -/
def underlyingAmount (scaled : Uint128) : Option Addr → ContractResult Uint128
  | none => return scaled
  | some poolAddress => do
    let index ← queryLiquidityIndex getReserve poolAddress
    scaledToUnderlyingFloor scaled index

/-- What an account's tokens are worth, in whole base units. -/
def queryBalance (address : String) : ContractResult Uint128 := do
  let addr ← deps.addrValidate address
  underlyingAmount getReserve (store.balance addr) store.config.poolAddress

/-- The metadata, with the value of all tokens as the supply. -/
def queryTokenInfo : ContractResult TokenInfoResponse := do
  let info := store.tokenInfo
  let poolAddress ← validateOptional deps store.config.poolAddress
  let totalSupply ← underlyingAmount getReserve info.totalSupply poolAddress
  return { name := info.name, symbol := info.symbol, decimals := info.decimals, totalSupply }

end

/-! ## What the conversion computes -/

/-- The token converts as the pool does. -/
theorem scaledToUnderlyingFloor_eq_ok {scaled amount : Uint128} {index : Decimal256} :
    scaledToUnderlyingFloor scaled index = .ok amount ↔
      scaledToUnderlyingLiquidity scaled index = .ok amount := by
  have hpool : scaledToUnderlyingLiquidity scaled index = .ok amount ↔
      amount.val = scaled.val * index.atomics / decimalFractional :=
    ⟨scaledToUnderlying_eq, scaledToUnderlying_of_eq⟩
  rw [hpool]
  unfold scaledToUnderlyingFloor
  split
  · rename_i hzero
    rw [Decimal256.isZero_iff.mp hzero, Nat.mul_zero, Nat.zero_div, pure_eq_ok]
    constructor
    · rintro rfl
      rfl
    · intro h
      exact (Uint.ext h).symm
  · rw [← hpool]
    simp only [scaledToUnderlyingLiquidity, scaledToUnderlying, bind_eq_ok, mapError_eq_ok,
      okOr_eq_ok]

end DemocratizedPrime.RepoToken
