import DemocratizedPrime.Common.Error
import DemocratizedPrime.Lib.TreeMap
import DemocratizedPrime.Lib.Result
import Mathlib.Algebra.Order.BigOperators.Group.Finset
import Mathlib.Algebra.Order.Group.Nat

/-!
# Amounts and coins

`Amounts` is a map from assets to amounts.  A list of coins may name an asset
more than once, and `coinsOf` adds up what it holds of one.

`Taken m coins m'` says that `m'` is `m` without the coins, and `Added` the
other way round.  The loops of the contracts change a map coin by coin, and the
two relations compose along a list: `Taken.foldlM` and `Added.foldlM` turn what
one round does into what the loop does.
-/

namespace DemocratizedPrime

open Result TreeMap

/-- Amounts by asset, a `BTreeMap<String, u128>`. -/
abbrev Amounts := Std.ExtTreeMap String Uint128

/-- The amount of an asset in a map, where an absent asset counts as none. -/
def amountOf (amounts : Amounts) (asset : String) : Uint128 := (amounts[asset]?).getD 0

theorem amountOf_val (m : Amounts) (a : String) : (amountOf m a).val = valueAt Uint.val m a := by
  unfold amountOf valueAt
  cases m[a]? <;> simp

theorem amountOf_insert (m : Amounts) (k a : String) (v : Uint128) :
    amountOf (m.insert k v) a = if k = a then v else amountOf m a := by
  unfold amountOf
  rw [getElem?_insert_eq]
  split <;> rfl

theorem amountOf_erase (m : Amounts) (k a : String) :
    amountOf (m.erase k) a = if k = a then 0 else amountOf m a := by
  unfold amountOf
  rw [getElem?_erase_eq]
  split <;> rfl

/-- A map that stores no zero is empty when every amount is zero. -/
theorem isEmpty_iff_amountOf {m : Amounts} (hm : NoNull Uint.isZero m) :
    m.isEmpty = true ↔ ∀ a, (amountOf m a).val = 0 := by
  constructor
  · intro hempty a
    rw [Std.ExtTreeMap.isEmpty_iff.mp hempty]
    rfl
  · intro hzero
    refine Std.ExtTreeMap.isEmpty_iff.mpr (Std.ExtTreeMap.ext_getElem? fun a => ?_)
    rw [Std.ExtTreeMap.getElem?_empty]
    cases hget : m[a]? with
    | none => rfl
    | some v =>
      have hnonzero := hm a v hget
      have hv := hzero a
      rw [amountOf, hget] at hv
      exact absurd hnonzero (by simp [Uint.isZero, show v.val = 0 from hv])

/-- A map that stores no zero, and is not empty, holds something. -/
theorem exists_amountOf_pos {m : Amounts} (hm : NoNull Uint.isZero m) (h : m.isEmpty = false) :
    ∃ a, 0 < (amountOf m a).val := by
  by_contra hnone
  have hempty : m.isEmpty = true := by
    rw [isEmpty_iff_amountOf hm]
    intro a
    have ha : ¬ 0 < (amountOf m a).val := fun hpos => hnone ⟨a, hpos⟩
    omega
  rw [h] at hempty
  cases hempty

/-- Maps that store no zero are equal when they hold the same amounts. -/
theorem amounts_ext {m m' : Amounts} (hm : NoNull Uint.isZero m) (hm' : NoNull Uint.isZero m')
    (h : ∀ a, (amountOf m a).val = (amountOf m' a).val) : m = m' := by
  apply Std.ExtTreeMap.ext_getElem?
  intro a
  have ha := h a
  unfold amountOf at ha
  cases hget : m[a]? with
  | none =>
    cases hget' : m'[a]? with
    | none => rfl
    | some v' =>
      have hnonzero := hm' a v' hget'
      rw [hget, hget'] at ha
      simp only [Uint.isZero, beq_eq_false_iff_ne] at hnonzero
      exact absurd ha.symm hnonzero
  | some v =>
    have hnonzero := hm a v hget
    simp only [Uint.isZero, beq_eq_false_iff_ne] at hnonzero
    cases hget' : m'[a]? with
    | none =>
      rw [hget, hget'] at ha
      exact absurd ha hnonzero
    | some v' =>
      rw [hget, hget'] at ha
      exact congrArg some (Uint.ext ha)

/-- The entries of a map are its amounts. -/
theorem amountOf_of_mem {m : Amounts} {e : String × Uint128} (h : e ∈ m.toList) :
    amountOf m e.1 = e.2 := by
  rw [amountOf, Std.ExtTreeMap.mem_toList_iff_getElem?_eq_some.mp h]
  rfl

/-- A sum over the entries of a map, as one over a set of assets that covers the amounts
which are not zero. -/
theorem sum_toList_eq_sum_assets {M : Type} [AddCommMonoid M] {g : String → Nat → M}
    (hg : ∀ a, g a 0 = 0) (m : Amounts) {assets : Finset String}
    (hassets : ∀ a, (amountOf m a).val ≠ 0 → a ∈ assets) :
    (m.toList.map fun entry => g entry.1 entry.2.val).sum =
      ∑ a ∈ assets, g a (amountOf m a).val := by
  have hcover : ∀ (a : String) (v : Uint128), m[a]? = some v → g a v.val ≠ 0 → a ∈ assets := by
    intro a v hget hne
    refine hassets a fun hzero => hne ?_
    rw [amountOf, hget] at hzero
    dsimp only [Option.getD_some] at hzero
    rw [hzero, hg]
  rw [sum_toList_eq_sum_keys (fun a (v : Uint128) => g a v.val) m hcover]
  refine Finset.sum_congr rfl fun a _ => ?_
  unfold amountOf
  cases m[a]? with
  | none => simp [hg]
  | some v => rfl

/-- The assets that a map has an entry for. -/
def assetSet (m : Amounts) : Finset String := m.keys.toFinset

theorem mem_assetSet {m : Amounts} {a : String} (h : (amountOf m a).val ≠ 0) : a ∈ assetSet m := by
  rw [assetSet, List.mem_toFinset, Std.ExtTreeMap.mem_keys,
    Std.ExtTreeMap.mem_iff_isSome_getElem?]
  unfold amountOf at h
  cases hget : m[a]? with
  | none => simp [hget] at h
  | some v => rfl

/-- An entry of a map of amounts, as a coin. -/
def entryCoin (entry : String × Uint128) : Coin := ⟨entry.1, entry.2⟩

/-- What a list of coins holds of one denomination. -/
def coinsOf (denom : String) (coins : List Coin) : Nat :=
  (coins.map fun coin => if coin.denom = denom then coin.amount.val else 0).sum

@[simp] theorem coinsOf_nil (d : String) : coinsOf d [] = 0 := rfl

@[simp] theorem coinsOf_cons (d : String) (c : Coin) (l : List Coin) :
    coinsOf d (c :: l) = (if c.denom = d then c.amount.val else 0) + coinsOf d l := by
  simp [coinsOf]

@[simp] theorem coinsOf_append (d : String) (l l' : List Coin) :
    coinsOf d (l ++ l') = coinsOf d l + coinsOf d l' := by
  simp [coinsOf]

/-- The entries of a map, as coins. -/
theorem coinsOf_toList (m : Amounts) (d : String) :
    coinsOf d (m.toList.map entryCoin) = (amountOf m d).val := by
  rw [amountOf_val, ← sum_toList_ite, coinsOf, List.map_map]
  rfl

theorem coinsOf_eq_zero {d : String} {l : List Coin} (h : ∀ c ∈ l, c.denom ≠ d) :
    coinsOf d l = 0 := by
  induction l with
  | nil => rfl
  | cons c rest ih =>
    rw [coinsOf_cons, if_neg (h c List.mem_cons_self), Nat.zero_add]
    exact ih fun c' hc' => h c' (List.mem_cons_of_mem _ hc')

/-! ## Taking coins out of a map, and adding them -/

/-- Take an amount out of a map, and drop the entry when nothing is left. -/
def takeAmount {ε : Type} (amounts : Amounts) (asset : String) (amount : Uint128)
    (underflow : ε) : Except ε Amounts := do
  let remaining ← okOr ((amountOf amounts asset).checkedSub amount) underflow
  return putUnless Uint.isZero amounts asset remaining

/-- `m'` is `m` after `coins` were taken out, without an entry that is null. -/
structure Taken (m : Amounts) (coins : List Coin) (m' : Amounts) : Prop where
  amounts : ∀ a, (amountOf m' a).val + coinsOf a coins = (amountOf m a).val
  noNull : NoNull Uint.isZero m → NoNull Uint.isZero m'

/-- `m'` is `m` after `coins` were put in, without an entry that is null. -/
structure Added (m : Amounts) (coins : List Coin) (m' : Amounts) : Prop where
  amounts : ∀ a, (amountOf m' a).val = (amountOf m a).val + coinsOf a coins
  noNull : NoNull Uint.isZero m → (∀ c ∈ coins, c.amount.val ≠ 0) → NoNull Uint.isZero m'

theorem putUnless_amountOf (m : Amounts) (k a : String) (v : Uint128) :
    (amountOf (putUnless Uint.isZero m k v) a).val =
      if k = a then v.val else (amountOf m a).val := by
  rw [amountOf_val, amountOf_val, valueAt_putUnless fun v hv => Uint.isZero_iff.mp hv]

namespace Taken

theorem nil (m : Amounts) : Taken m [] m := ⟨fun _ => rfl, id⟩

theorem append {m m' m'' : Amounts} {l l' : List Coin} (h : Taken m l m')
    (h' : Taken m' l' m'') : Taken m (l ++ l') m'' := by
  refine ⟨fun a => ?_, fun hm => h'.noNull (h.noNull hm)⟩
  have h1 := h.amounts a
  have h2 := h'.amounts a
  rw [coinsOf_append]
  omega

/-- A checked subtraction that is saved takes one coin out. -/
theorem put {m : Amounts} {c : Coin} {left : Uint128}
    (h : left.val + c.amount.val = (amountOf m c.denom).val) :
    Taken m [c] (putUnless Uint.isZero m c.denom left) := by
  refine ⟨fun a => ?_, fun hm => hm.putUnless _ _⟩
  rw [putUnless_amountOf]
  by_cases ha : c.denom = a
  · subst ha
    simpa using h
  · simp [ha]

theorem takeAmount {ε : Type} {m m' : Amounts} {asset : String} {amount : Uint128} {e : ε}
    (h : takeAmount m asset amount e = .ok m') : Taken m [⟨asset, amount⟩] m' := by
  simp only [DemocratizedPrime.takeAmount, bind_eq_ok, okOr_eq_ok, Uint.checkedSub_eq_some,
    pure_eq_ok] at h
  obtain ⟨left, hleft, rfl⟩ := h
  exact put hleft

/-- Along a loop over entries, each of which is taken out. -/
theorem foldlM {ε : Type} {step : Amounts → String × Uint128 → Except ε Amounts}
    (hstep : ∀ m e m', step m e = .ok m' → Taken m [entryCoin e] m')
    {l : List (String × Uint128)} {m m' : Amounts} (h : l.foldlM step m = .ok m') :
    Taken m (l.map entryCoin) m' := by
  have hloop := foldlM_ok_induct (fun done b => Taken m (done.map entryCoin) b)
    (fun done e b b' hb he => by
      rw [List.map_append]
      exact hb.append (hstep b e b' he)) (nil m) h
  exact hloop

/-- The loop goes through when the map holds enough of each asset. -/
theorem exists_foldlM {ε : Type} {e : ε} {l : List (String × Uint128)} {m : Amounts}
    (h : ∀ a, coinsOf a (l.map entryCoin) ≤ (amountOf m a).val) :
    ∃ m', l.foldlM (fun m entry => DemocratizedPrime.takeAmount m entry.1 entry.2 e) m =
      .ok m' := by
  induction l generalizing m with
  | nil => exact ⟨m, rfl⟩
  | cons entry rest ih =>
    have hfirst := h entry.1
    rw [List.map_cons, coinsOf_cons, entryCoin, if_pos rfl] at hfirst
    dsimp only at hfirst
    have hleft : ∃ left, (amountOf m entry.1).checkedSub entry.2 = some left := by
      rw [← Option.isSome_iff_exists, Option.isSome_iff_ne_none, ne_eq, Uint.checkedSub_eq_none]
      omega
    obtain ⟨left, hleft⟩ := hleft
    have htake : DemocratizedPrime.takeAmount m entry.1 entry.2 e =
        .ok (putUnless Uint.isZero m entry.1 left) := by
      rw [DemocratizedPrime.takeAmount, hleft]
      rfl
    have hrest : ∀ a, coinsOf a (rest.map entryCoin) ≤
        (amountOf (putUnless Uint.isZero m entry.1 left) a).val := by
      intro a
      have htaken := (Taken.takeAmount htake).amounts a
      have hsplit : coinsOf a ((entry :: rest).map entryCoin) =
          coinsOf a [⟨entry.1, entry.2⟩] + coinsOf a (rest.map entryCoin) := by
        rw [← coinsOf_append]
        rfl
      have ha := h a
      omega
    obtain ⟨m', hm'⟩ := ih hrest
    exact ⟨m', by rw [List.foldlM_cons, htake, ok_bind, hm']⟩

end Taken

namespace Added

theorem nil (m : Amounts) : Added m [] m := ⟨fun _ => rfl, fun h _ => h⟩

theorem append {m m' m'' : Amounts} {l l' : List Coin} (h : Added m l m')
    (h' : Added m' l' m'') : Added m (l ++ l') m'' := by
  refine ⟨fun a => ?_, fun hm hl => ?_⟩
  · have h1 := h.amounts a
    have h2 := h'.amounts a
    rw [coinsOf_append]
    omega
  · exact h'.noNull (h.noNull hm fun c hc => hl c (List.mem_append_left _ hc))
      fun c hc => hl c (List.mem_append_right _ hc)

/-- A checked addition that is inserted adds one coin. -/
theorem insert {m : Amounts} {c : Coin} {total : Uint128}
    (h : total.val = (amountOf m c.denom).val + c.amount.val) :
    Added m [c] (m.insert c.denom total) := by
  refine ⟨fun a => ?_, fun hm hc => ?_⟩
  · rw [amountOf_val, amountOf_val, valueAt_insert]
    by_cases ha : c.denom = a
    · subst ha
      simpa [amountOf_val] using h
    · simp [ha]
  · have hpos := hc c List.mem_cons_self
    apply hm.insert
    simp only [Uint.isZero, beq_eq_false_iff_ne]
    omega

/-- A checked addition that is saved adds one coin. -/
theorem put {m : Amounts} {c : Coin} {total : Uint128}
    (h : total.val = (amountOf m c.denom).val + c.amount.val) :
    Added m [c] (putUnless Uint.isZero m c.denom total) := by
  refine ⟨fun a => ?_, fun hm _ => hm.putUnless _ _⟩
  rw [putUnless_amountOf]
  by_cases ha : c.denom = a
  · subst ha
    simpa using h
  · simp [ha]

/-- Along a loop over coins, each of which is added. -/
theorem foldlM {ε : Type} {step : Amounts → Coin → Except ε Amounts}
    (hstep : ∀ m c m', step m c = .ok m' → Added m [c] m')
    {l : List Coin} {m m' : Amounts} (h : l.foldlM step m = .ok m') : Added m l m' := by
  have hloop := foldlM_ok_induct (fun done b => Added m done b)
    (fun done c b b' hb hc => hb.append (hstep b c b' hc)) (nil m) h
  exact hloop

end Added

/-! ## Values of amounts -/

/-- A value of an amount of an asset that does not grow when the amount is split. -/
structure Valuation (value : String → Nat → Nat) : Prop where
  zero : ∀ a, value a 0 = 0
  add_le : ∀ a m n, value a m + value a n ≤ value a (m + n)

namespace Valuation

variable {value : String → Nat → Nat}

/-- Coins are worth at most what they add up to. -/
theorem coins_le (h : Valuation value) (coins : List Coin) {assets : Finset String}
    (hassets : ∀ c ∈ coins, c.denom ∈ assets) :
    (coins.map fun c => value c.denom c.amount.val).sum ≤
      ∑ a ∈ assets, value a (coinsOf a coins) := by
  induction coins with
  | nil => exact Nat.zero_le _
  | cons c rest ih =>
    have hrest := ih fun c' hc' => hassets c' (List.mem_cons_of_mem _ hc')
    have hfirst : value c.denom c.amount.val ≤
        ∑ a ∈ assets, value a (if c.denom = a then c.amount.val else 0) := by
      have hsingle := Finset.single_le_sum
        (f := fun a => value a (if c.denom = a then c.amount.val else 0))
        (fun a _ => Nat.zero_le _) (hassets c List.mem_cons_self)
      rwa [if_pos rfl] at hsingle
    calc ((c :: rest).map fun c => value c.denom c.amount.val).sum
        = value c.denom c.amount.val + (rest.map fun c => value c.denom c.amount.val).sum := by
          rw [List.map_cons, List.sum_cons]
      _ ≤ ∑ a ∈ assets, value a (if c.denom = a then c.amount.val else 0) +
            ∑ a ∈ assets, value a (coinsOf a rest) := Nat.add_le_add hfirst hrest
      _ = ∑ a ∈ assets, (value a (if c.denom = a then c.amount.val else 0) +
            value a (coinsOf a rest)) := Finset.sum_add_distrib.symm
      _ ≤ ∑ a ∈ assets, value a (coinsOf a (c :: rest)) :=
          Finset.sum_le_sum fun a _ => by
            rw [coinsOf_cons]
            exact h.add_le a _ _

/-- A holding to which coins are added is worth at least the old holding and the coins. -/
theorem added_le (h : Valuation value) {m m' : Amounts} {coins : List Coin}
    (hadded : Added m coins m') (denoms : Finset String) :
    (m.toList.map fun entry => value entry.1 entry.2.val).sum +
        ∑ a ∈ denoms, value a (coinsOf a coins) ≤
      (m'.toList.map fun entry => value entry.1 entry.2.val).sum := by
  have hcover (a : String) (ha : (amountOf m' a).val ≠ 0) : a ∈ assetSet m' ∪ denoms :=
    Finset.mem_union_left _ (mem_assetSet ha)
  have hcover' (a : String) (ha : (amountOf m a).val ≠ 0) : a ∈ assetSet m' ∪ denoms := by
    apply hcover
    rw [hadded.amounts]
    omega
  rw [sum_toList_eq_sum_assets h.zero m hcover', sum_toList_eq_sum_assets h.zero m' hcover]
  calc ∑ a ∈ assetSet m' ∪ denoms, value a (amountOf m a).val +
        ∑ a ∈ denoms, value a (coinsOf a coins)
      ≤ ∑ a ∈ assetSet m' ∪ denoms, value a (amountOf m a).val +
          ∑ a ∈ assetSet m' ∪ denoms, value a (coinsOf a coins) :=
        Nat.add_le_add_left (Finset.sum_le_sum_of_subset Finset.subset_union_right) _
    _ = ∑ a ∈ assetSet m' ∪ denoms, (value a (amountOf m a).val + value a (coinsOf a coins)) :=
        Finset.sum_add_distrib.symm
    _ ≤ ∑ a ∈ assetSet m' ∪ denoms, value a (amountOf m' a).val :=
        Finset.sum_le_sum fun a _ => by
          rw [hadded.amounts]
          exact h.add_le a _ _

end Valuation

end DemocratizedPrime
