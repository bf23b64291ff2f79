import Mathlib.Algebra.Order.Ring.Defs
import Mathlib.Tactic.Linarith
import Mathlib.Tactic.Ring

/-!
# The books of a lending pool

A pool that lends what it is lent holds cash and is owed debt, and owes the
lenders' claims and its own reserve.  A deficit is a loss that is booked and not
yet borne by anyone, and counts like an asset.  The surplus is what remains of
the assets above the liabilities.

A `Move` is a transaction that rounds in the pool's favour: each constructor
states the one inequality that its rounding must satisfy, and the surplus never
goes down (`Move.surplus_le`).  A loan is the exception.  The debt that is
recorded may fall short of the cash that is paid, by less than a given slack
(`Books.surplus_lend`).
-/

namespace LendingBooks

variable {K : Type} [CommRing K]

/-- The books of a lending pool: what it holds, what it is owed, and what it owes. -/
@[ext] structure Books (K : Type) where
  cash : K
  debt : K
  deficit : K
  claims : K
  reserve : K

namespace Books

/-- The assets less the liabilities. -/
def surplus (b : Books K) : K := b.cash + b.debt + b.deficit - b.claims - b.reserve

/-- Cash comes in, and nothing else changes. -/
def receive (b : Books K) (paid : K) : Books K := { b with cash := b.cash + paid }

/-- A lender pays in and gets a claim. -/
def deposit (b : Books K) (paid claim : K) : Books K :=
  { b with cash := b.cash + paid, claims := b.claims + claim }

/-- A lender gives up a claim and is paid. -/
def redeem (b : Books K) (paid claim : K) : Books K :=
  { b with cash := b.cash - paid, claims := b.claims - claim }

/-- A borrower is paid and owes a debt. -/
def lend (b : Books K) (paid debt : K) : Books K :=
  { b with cash := b.cash - paid, debt := b.debt + debt }

/-- A payment cancels debt. -/
def repay (b : Books K) (paid cancelled : K) : Books K :=
  { b with cash := b.cash + paid, debt := b.debt - cancelled }

/-- Debt is given up, and the loss is booked as a deficit. -/
def defer (b : Books K) (lost loss : K) : Books K :=
  { b with debt := b.debt - lost, deficit := b.deficit + loss }

/-- Debt is given up, and the lenders' claims are cut. -/
def spread (b : Books K) (lost cut : K) : Books K :=
  { b with debt := b.debt - lost, claims := b.claims - cut }

/-- A payment clears a part of the deficit. -/
def cover (b : Books K) (paid cleared : K) : Books K :=
  { b with cash := b.cash + paid, deficit := b.deficit - cleared }

/-- The reserve clears a part of the deficit. -/
def offset (b : Books K) (cleared : K) : Books K :=
  { b with deficit := b.deficit - cleared, reserve := b.reserve - cleared }

/-- The lenders' claims are cut to clear a part of the deficit. -/
def socialize (b : Books K) (cleared cut : K) : Books K :=
  { b with deficit := b.deficit - cleared, claims := b.claims - cut }

/-- The reserve is paid out. -/
def payReserve (b : Books K) (paid released : K) : Books K :=
  { b with cash := b.cash - paid, reserve := b.reserve - released }

variable [LinearOrder K] [IsStrictOrderedRing K]

/-- A loan whose debt falls short of the payment by less than the slack. -/
theorem surplus_lend (b : Books K) {paid debt slack : K} (h : paid < debt + slack) :
    b.surplus - slack < (b.lend paid debt).surplus := by
  simp only [surplus, lend]
  linarith

end Books

/-- A transaction, or several, that the pool does not lose by. -/
inductive Move [LE K] : Books K → Books K → Prop
  | receive (b : Books K) {paid : K} (h : 0 ≤ paid) : Move b (b.receive paid)
  | deposit (b : Books K) {paid claim : K} (h : claim ≤ paid) : Move b (b.deposit paid claim)
  | redeem (b : Books K) {paid claim : K} (h : paid ≤ claim) : Move b (b.redeem paid claim)
  | repay (b : Books K) {paid cancelled : K} (h : cancelled ≤ paid) :
      Move b (b.repay paid cancelled)
  | defer (b : Books K) {lost loss : K} (h : lost ≤ loss) : Move b (b.defer lost loss)
  | spread (b : Books K) {lost cut : K} (h : lost ≤ cut) : Move b (b.spread lost cut)
  | cover (b : Books K) {paid cleared : K} (h : cleared ≤ paid) : Move b (b.cover paid cleared)
  | offset (b : Books K) (cleared : K) : Move b (b.offset cleared)
  | socialize (b : Books K) {cleared cut : K} (h : cleared ≤ cut) : Move b (b.socialize cleared cut)
  | payReserve (b : Books K) {paid released : K} (h : paid ≤ released) :
      Move b (b.payReserve paid released)
  | trans {b c d : Books K} (first : Move b c) (second : Move c d) : Move b d

/-- The surplus does not go down. -/
theorem Move.surplus_le [LinearOrder K] [IsStrictOrderedRing K] {b b' : Books K} (h : Move b b') :
    b.surplus ≤ b'.surplus := by
  induction h with
  | receive b h => simp only [Books.surplus, Books.receive]; linarith
  | deposit b h => simp only [Books.surplus, Books.deposit]; linarith
  | redeem b h => simp only [Books.surplus, Books.redeem]; linarith
  | repay b h => simp only [Books.surplus, Books.repay]; linarith
  | defer b h => simp only [Books.surplus, Books.defer]; linarith
  | spread b h => simp only [Books.surplus, Books.spread]; linarith
  | cover b h => simp only [Books.surplus, Books.cover]; linarith
  | offset b => simp only [Books.surplus, Books.offset]; linarith
  | socialize b h => simp only [Books.surplus, Books.socialize]; linarith
  | payReserve b h => simp only [Books.surplus, Books.payReserve]; linarith
  | trans _ _ ih ih' => exact le_trans ih ih'

end LendingBooks
