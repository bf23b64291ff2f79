import DemocratizedPrime.Pool.Model

/-!
# The pool's storage

One field for each item and map that the pool stores, and the accessors under
the names of the source.  The maps keep no zero: a setter erases an entry that
would be zero or empty, and a missing entry reads as zero.
-/

namespace DemocratizedPrime

open Result TreeMap

/-- What the pool stores. -/
structure PoolStorage where
  contract : ContractStateV1
  reserve : ReserveStateV1
  ownership : Ownership
  scaledBorrow : Std.ExtTreeMap Addr Uint128
  borrowerCollateral : Std.ExtTreeMap Addr Amounts
  totalCollateralByAsset : Amounts
  directedSaleOffer : Std.ExtTreeMap Addr DirectedSaleOfferV1
  directedSaleVersion : Std.ExtTreeMap Addr Uint64
  borrowerRequireCommit : Std.ExtTreeMap Addr Unit
  lenderRequireCommitOnExit : Std.ExtTreeMap Addr Unit

namespace PoolStorage

/-! ## The items -/

/-- Save the configuration. -/
def setContractStateV1 (store : PoolStorage) (contract : ContractStateV1) : PoolStorage :=
  { store with contract }

/-- Save the reserve. -/
def setReserveStateV1 (store : PoolStorage) (reserve : ReserveStateV1) : PoolStorage :=
  { store with reserve }

/-! ## Scaled borrows -/

/-- The scaled debt of an account, zero if it has none. -/
def getScaledBorrow (store : PoolStorage) (owner : Addr) : Uint128 :=
  (store.scaledBorrow[owner]?).getD 0

/-- Save a scaled debt; a debt of zero is removed. -/
def setScaledBorrow (store : PoolStorage) (owner : Addr) (amount : Uint128) : PoolStorage :=
  { store with scaledBorrow := putUnless Uint.isZero store.scaledBorrow owner amount }

/-! ## Collateral -/

/-- The collateral of a borrower. -/
def getBorrowerCollateral (store : PoolStorage) (borrower : Addr) : Amounts :=
  (store.borrowerCollateral[borrower]?).getD ∅

/-- Save the collateral of a borrower; an empty one is removed. -/
def setBorrowerCollateral (store : PoolStorage) (borrower : Addr) (amounts : Amounts) :
    PoolStorage :=
  { store with borrowerCollateral :=
      putUnless (fun m => m.isEmpty) store.borrowerCollateral borrower amounts }

/-- How much of an asset all borrowers hold. -/
def getTotalCollateralByAsset (store : PoolStorage) (asset : String) : Uint128 :=
  amountOf store.totalCollateralByAsset asset

/-- Whether any borrower holds the asset. -/
def isCollateralAssetInUse (store : PoolStorage) (asset : String) : Bool :=
  decide (0 < (store.getTotalCollateralByAsset asset).val)

/-- The save of both counters: an entry that reaches zero is removed. -/
def putTotalCollateral (store : PoolStorage) (asset : String) (total : Uint128) : PoolStorage :=
  { store with totalCollateralByAsset :=
      putUnless Uint.isZero store.totalCollateralByAsset asset total }

/-- Count collateral that comes in. -/
def addTotalCollateral (store : PoolStorage) (asset : String) (amount : Uint128) :
    ContractResult PoolStorage := do
  let total ← okOr ((store.getTotalCollateralByAsset asset).checkedAdd amount)
    (illegalState "overflow: total_collateral_by_asset (cur + amount)")
  return store.putTotalCollateral asset total

/-- Count collateral that goes out. -/
def subtractTotalCollateral (store : PoolStorage) (asset : String) (amount : Uint128) :
    ContractResult PoolStorage := do
  let total ← okOr ((store.getTotalCollateralByAsset asset).checkedSub amount)
    (illegalState "total collateral by asset would underflow")
  return store.putTotalCollateral asset total

/-! ## Directed sales -/

/-- The offer of a borrower, live or not. -/
def getDirectedSaleOffer (store : PoolStorage) (borrower : Addr) : Option DirectedSaleOfferV1 :=
  store.directedSaleOffer[borrower]?

/-- Save an offer. -/
def setDirectedSaleOffer (store : PoolStorage) (borrower : Addr) (offer : DirectedSaleOfferV1) :
    PoolStorage :=
  { store with directedSaleOffer := store.directedSaleOffer.insert borrower offer }

/-- Drop the offer of a borrower. -/
def clearDirectedSaleOffer (store : PoolStorage) (borrower : Addr) : PoolStorage :=
  { store with directedSaleOffer := store.directedSaleOffer.erase borrower }

/-- How often the offer of a borrower was adjusted. -/
def getDirectedSaleVersion (store : PoolStorage) (borrower : Addr) : Uint64 :=
  (store.directedSaleVersion[borrower]?).getD 0

/-- Save the version of an offer. -/
def setDirectedSaleVersion (store : PoolStorage) (borrower : Addr) (version : Uint64) :
    PoolStorage :=
  { store with directedSaleVersion := store.directedSaleVersion.insert borrower version }

/-! ## Commit requirements -/

/-- Whether payments to this borrower are committed to the market. -/
def getBorrowerRequireCommit (store : PoolStorage) (borrower : Addr) : Bool :=
  store.borrowerRequireCommit.contains borrower

/-- Save that rule; the default is to have no entry. -/
def setBorrowerRequireCommit (store : PoolStorage) (borrower : Addr) (require : Bool) :
    PoolStorage :=
  { store with borrowerRequireCommit :=
      if require then store.borrowerRequireCommit.insert borrower ()
      else store.borrowerRequireCommit.erase borrower }

/-- Whether this lender's payouts are committed to the market. -/
def getLenderRequireCommitOnExit (store : PoolStorage) (lender : Addr) : Bool :=
  store.lenderRequireCommitOnExit.contains lender

/-- Save that rule; the default is to have no entry. -/
def setLenderRequireCommitOnExit (store : PoolStorage) (lender : Addr) (require : Bool) :
    PoolStorage :=
  { store with lenderRequireCommitOnExit :=
      if require then store.lenderRequireCommitOnExit.insert lender ()
      else store.lenderRequireCommitOnExit.erase lender }

/-! ## What a setter saves -/

/-- The debts after a save. -/
theorem getScaledBorrow_set (s : PoolStorage) (b b' : Addr) (d : Uint128) :
    (s.setScaledBorrow b d).getScaledBorrow b' = if b = b' then d else s.getScaledBorrow b' := by
  unfold getScaledBorrow setScaledBorrow
  dsimp only
  rw [getElem?_putUnless]
  by_cases hb : b = b'
  · rw [if_pos hb, if_pos hb]
    by_cases hd : d.isZero = true
    · have hzero : d = 0 := Uint.ext (by rw [Uint.val_zero]; exact Uint.isZero_iff.mp hd)
      rw [if_pos hd, hzero]
      rfl
    · rw [if_neg hd]
      rfl
  · rw [if_neg hb, if_neg hb]

/-- The holdings after a save. -/
theorem getBorrowerCollateral_set (s : PoolStorage) (b b' : Addr) (m : Amounts) :
    (s.setBorrowerCollateral b m).getBorrowerCollateral b' =
      if b = b' then m else s.getBorrowerCollateral b' := by
  unfold getBorrowerCollateral setBorrowerCollateral
  dsimp only
  rw [getElem?_putUnless]
  by_cases hb : b = b'
  · rw [if_pos hb, if_pos hb]
    by_cases hm : m.isEmpty = true
    · rw [if_pos hm, Std.ExtTreeMap.isEmpty_iff.mp hm]
      rfl
    · rw [if_neg hm]
      rfl
  · rw [if_neg hb, if_neg hb]

/-! ## What a setter leaves alone -/

@[simp] theorem setContractStateV1_contract (s : PoolStorage) (c : ContractStateV1) :
    (s.setContractStateV1 c).contract = c := rfl
@[simp] theorem setReserveStateV1_reserve (s : PoolStorage) (r : ReserveStateV1) :
    (s.setReserveStateV1 r).reserve = r := rfl
@[simp] theorem setReserveStateV1_contract (s : PoolStorage) (r : ReserveStateV1) :
    (s.setReserveStateV1 r).contract = s.contract := rfl
@[simp] theorem setContractStateV1_reserve (s : PoolStorage) (c : ContractStateV1) :
    (s.setContractStateV1 c).reserve = s.reserve := rfl

end PoolStorage

end DemocratizedPrime
