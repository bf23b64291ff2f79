import DemocratizedPrime.Lib.TreeMap
import DemocratizedPrime.Lib.Uint

/-!
# Share ledgers

How many shares each account owns, as a finite map.  An account without an entry owns
none, and a ledger without zeros has no other way to say so.

`Credited b k n b'` says that `b'` is `b` with `n` more shares for the account `k`.
Read from right to left it takes shares away, so a burn is `Credited b' k n b`, and a
transfer is a burn and a mint with a ledger in between.

* `Credited.insert` and `Credited.of_put` are the two ways to update an entry.
* `Credited.outstanding` is what an update does to the number of all shares.
* `Moved` composes the two halves of a transfer.
-/

namespace ShareLedger

open Std TreeMap

variable {K : Type} [Ord K] [TransOrd K] {bits : Nat}

/-- The shares of each account. -/
abbrev Book (K : Type) [Ord K] (bits : Nat) := ExtTreeMap K (Uint bits)

/-- The shares of one account. -/
def owned (b : Book K bits) (k : K) : Uint bits := (b[k]?).getD 0

/-- The shares of all accounts together. -/
def outstanding (b : Book K bits) : Nat := sumBy Uint.val b

/-- No account is listed with zero shares. -/
def NoZero (b : Book K bits) : Prop := NoNull Uint.isZero b

theorem owned_val (b : Book K bits) (k : K) : (owned b k).val = valueAt Uint.val b k := by
  unfold owned valueAt
  cases b[k]? <;> simp

@[simp] theorem outstanding_empty : outstanding (∅ : Book K bits) = 0 := sumBy_empty _

theorem noZero_empty : NoZero (∅ : Book K bits) := noNull_empty _

variable [DecidableEq K] {b b' b'' : Book K bits} {k l : K} {n : Nat}

/-! ## Updates of one account -/

/-- The account has `n` shares more, and the others have as many as before. -/
structure Credited (b : Book K bits) (k : K) (n : Nat) (b' : Book K bits) : Prop where
  owned : ∀ a, (owned b' a).val = (owned b a).val + if a = k then n else 0
  outstanding : outstanding b' = outstanding b + n

namespace Credited

theorem self (h : Credited b k n b') : (ShareLedger.owned b' k).val =
    (ShareLedger.owned b k).val + n := by
  rw [h.owned, if_pos rfl]

theorem other (h : Credited b k n b') {a : K} (ha : a ≠ k) :
    (ShareLedger.owned b' a).val = (ShareLedger.owned b a).val := by
  rw [h.owned, if_neg ha, Nat.add_zero]

variable [LawfulEqOrd K]

/-- A checked addition that is saved. -/
theorem insert {v : Uint bits} (h : v.val = (ShareLedger.owned b k).val + n) :
    Credited b k n (b.insert k v) := by
  refine ⟨fun a => ?_, ?_⟩
  · rw [owned_val, owned_val, valueAt_insert]
    by_cases ha : a = k
    · subst ha
      rw [if_pos rfl, if_pos rfl, ← owned_val, h]
    · rw [if_neg ha, if_neg fun he => ha he.symm, Nat.add_zero]
  · have hsum := sumBy_insert Uint.val b k v
    rw [← owned_val, h] at hsum
    unfold ShareLedger.outstanding
    omega

/-- A checked subtraction that is saved, where an account without shares is dropped. -/
theorem of_put {left : Uint bits} (h : left.val + n = (ShareLedger.owned b k).val) :
    Credited (putUnless Uint.isZero b k left) k n b := by
  have hzero : ∀ v : Uint bits, v.isZero = true → v.val = 0 := fun v hv => Uint.isZero_iff.mp hv
  refine ⟨fun a => ?_, ?_⟩
  · rw [owned_val, owned_val, valueAt_putUnless hzero]
    by_cases ha : a = k
    · subst ha
      rw [if_pos rfl, if_pos rfl, ← owned_val, h]
    · rw [if_neg ha, if_neg fun he => ha he.symm, Nat.add_zero]
  · have hsum := sumBy_putUnless hzero b k left
    rw [← owned_val, ← h] at hsum
    unfold ShareLedger.outstanding
    omega

end Credited

/-! ## Transfers -/

/-- `n` shares went from one account to another, or back to the same. -/
structure Moved (b : Book K bits) (k l : K) (n : Nat) (b' : Book K bits) : Prop where
  owned : ∀ a, (owned b' a).val + (if a = k then n else 0) =
    (owned b a).val + if a = l then n else 0
  outstanding : outstanding b' = outstanding b
  covered : n ≤ (ShareLedger.owned b k).val

/-- A transfer takes the shares from one account, and then gives them to the other. -/
theorem Credited.moved (hout : Credited b' k n b) (hin : Credited b' l n b'') :
    Moved b k l n b'' := by
  refine ⟨fun a => ?_, ?_, ?_⟩
  · have h1 := hout.owned a
    have h2 := hin.owned a
    omega
  · rw [hin.outstanding, hout.outstanding]
  · rw [hout.self]
    exact Nat.le_add_left n _

/-! ## Zeros and bounds -/

variable [LawfulEqOrd K]

/-- No account owns more shares than there are. -/
theorem owned_le_outstanding (b : Book K bits) (k : K) : (owned b k).val ≤ outstanding b := by
  rw [owned_val]
  exact valueAt_le_sumBy _ _ _

/-- Nor do several accounts together. -/
theorem sum_owned_le_outstanding (b : Book K bits) (keys : Finset K) :
    ∑ k ∈ keys, (owned b k).val ≤ outstanding b := by
  simp only [owned_val]
  exact sum_valueAt_le_sumBy _ _ _

/-- An entry that is not zero keeps the ledger free of zeros. -/
theorem NoZero.insert (h : NoZero b) {v : Uint bits} (hv : v.val ≠ 0) :
    NoZero (b.insert k v) := by
  apply NoNull.insert h
  simpa [Uint.isZero] using hv

end ShareLedger
