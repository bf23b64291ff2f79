import Std.Data.ExtTreeMap
import Mathlib.Algebra.BigOperators.Group.List.Basic
import Mathlib.Algebra.BigOperators.Group.Finset.Basic
import Mathlib.Data.List.Perm.Basic
import Mathlib.Data.List.Nodup
import Mathlib.Algebra.Ring.Nat

/-!
# Sums over finite maps

The maps are `Std.ExtTreeMap`: finite, iterated in key order, and equal when
they hold the same entries.  `sumBy f m` adds `f v` over the values `v` of `m`.
An insert or an erase changes the sum by the entry it writes and the entry it
displaces; `sumBy_insert` and `sumBy_erase` say so without subtraction.

`valueAt f m k` is the share of the key `k` in that sum, and `0` when the key is
absent.  A map that stores no zero is then described by `valueAt` alone.
-/

namespace TreeMap

open Std

variable {K V : Type} [Ord K] [TransOrd K]

/-- The sum of `f v` over the values `v` of the map. -/
def sumBy (f : V → Nat) (m : ExtTreeMap K V) : Nat :=
  (m.toList.map fun entry => f entry.2).sum

/-- What the entry under `k` contributes to `sumBy f m`. -/
def valueAt (f : V → Nat) (m : ExtTreeMap K V) (k : K) : Nat :=
  (m[k]?.map f).getD 0

@[simp] theorem sumBy_empty (f : V → Nat) : sumBy f (∅ : ExtTreeMap K V) = 0 := by
  have h : (∅ : ExtTreeMap K V).toList = [] := ExtTreeMap.toList_eq_nil_iff.mpr rfl
  simp [sumBy, h]

@[simp] theorem valueAt_empty (f : V → Nat) (k : K) :
    valueAt f (∅ : ExtTreeMap K V) k = 0 := by
  simp [valueAt]

theorem valueAt_of_getElem? {f : V → Nat} {m : ExtTreeMap K V} {k : K} {v : V}
    (h : m[k]? = some v) : valueAt f m k = f v := by
  simp [valueAt, h]

variable [LawfulEqOrd K]

theorem nodup_toList (m : ExtTreeMap K V) : m.toList.Nodup := by
  have h := ExtTreeMap.distinct_keys_toList (t := m)
  refine h.imp ?_
  rintro a b hab rfl
  exact hab ReflCmp.compare_self

/-- No key is listed twice. -/
theorem nodup_keys_toList (m : ExtTreeMap K V) : (m.toList.map (·.1)).Nodup := by
  refine List.Pairwise.map _ ?_ (ExtTreeMap.distinct_keys_toList (t := m))
  intro a b hab heq
  rw [heq] at hab
  exact hab ReflCmp.compare_self

/-- Two lists of entries without repeats that answer every lookup alike hold the
same entries. -/
theorem toList_perm_of_mem_iff {m : ExtTreeMap K V} {l : List (K × V)} (hl : l.Nodup)
    (h : ∀ k v, (k, v) ∈ l ↔ m[k]? = some v) : m.toList.Perm l := by
  refine (List.perm_ext_iff_of_nodup (nodup_toList m) hl).mpr ?_
  rintro ⟨k, v⟩
  rw [h k v]
  exact ExtTreeMap.mem_toList_iff_getElem?_eq_some

variable [DecidableEq K]

theorem getElem?_insert_eq (m : ExtTreeMap K V) (k a : K) (v : V) :
    (m.insert k v)[a]? = if k = a then some v else m[a]? := by
  rw [ExtTreeMap.getElem?_insert]
  by_cases h : k = a
  · simp [h]
  · rw [if_neg h, if_neg (fun hc => h (LawfulEqCmp.eq_of_compare hc))]

theorem getElem?_erase_eq (m : ExtTreeMap K V) (k a : K) :
    (m.erase k)[a]? = if k = a then none else m[a]? := by
  rw [ExtTreeMap.getElem?_erase]
  by_cases h : k = a
  · simp [h]
  · rw [if_neg h, if_neg (fun hc => h (LawfulEqCmp.eq_of_compare hc))]

/-- A map is its entry under `k` and what is left when that entry is erased. -/
theorem toList_perm_cons_erase {m : ExtTreeMap K V} {k : K} {v : V} (h : m[k]? = some v) :
    m.toList.Perm ((k, v) :: (m.erase k).toList) := by
  apply toList_perm_of_mem_iff
  · refine List.nodup_cons.mpr ⟨?_, nodup_toList _⟩
    intro hmem
    rw [ExtTreeMap.mem_toList_iff_getElem?_eq_some, getElem?_erase_eq, if_pos rfl] at hmem
    cases hmem
  · intro a w
    rw [List.mem_cons, ExtTreeMap.mem_toList_iff_getElem?_eq_some, getElem?_erase_eq]
    by_cases hk : k = a
    · subst hk
      simp [h, eq_comm]
    · simp [hk, Ne.symm hk]

theorem erase_insert (m : ExtTreeMap K V) (k : K) (v : V) :
    (m.insert k v).erase k = m.erase k := by
  apply ExtTreeMap.ext_getElem?
  intro a
  rw [getElem?_erase_eq, getElem?_erase_eq, getElem?_insert_eq]
  by_cases h : k = a <;> simp [h]

theorem erase_eq_self_of_getElem?_eq_none {m : ExtTreeMap K V} {k : K} (h : m[k]? = none) :
    m.erase k = m := by
  apply ExtTreeMap.ext_getElem?
  intro a
  rw [getElem?_erase_eq]
  by_cases hk : k = a
  · subst hk
    simp [h]
  · simp [hk]

/-- Erasing a key takes its share out of the sum. -/
theorem sumBy_erase (f : V → Nat) (m : ExtTreeMap K V) (k : K) :
    sumBy f (m.erase k) + valueAt f m k = sumBy f m := by
  unfold valueAt
  cases h : m[k]? with
  | none =>
    rw [erase_eq_self_of_getElem?_eq_none h]
    rfl
  | some v =>
    have hperm := (toList_perm_cons_erase h).map fun entry => f entry.2
    have hsum := hperm.sum_eq
    simp only [List.map_cons, List.sum_cons] at hsum
    simp only [Option.map_some, Option.getD_some, sumBy]
    omega

/-- An insert puts the new share in the place of the old one. -/
theorem sumBy_insert (f : V → Nat) (m : ExtTreeMap K V) (k : K) (v : V) :
    sumBy f (m.insert k v) + valueAt f m k = sumBy f m + f v := by
  have hnew := sumBy_erase f (m.insert k v) k
  have hold := sumBy_erase f m k
  have hv : valueAt f (m.insert k v) k = f v := by
    rw [valueAt, getElem?_insert_eq, if_pos rfl]
    rfl
  rw [erase_insert, hv] at hnew
  omega

/-- One share is at most the whole sum. -/
theorem valueAt_le_sumBy (f : V → Nat) (m : ExtTreeMap K V) (k : K) :
    valueAt f m k ≤ sumBy f m := by
  have := sumBy_erase f m k
  omega

theorem valueAt_insert (f : V → Nat) (m : ExtTreeMap K V) (k a : K) (v : V) :
    valueAt f (m.insert k v) a = if k = a then f v else valueAt f m a := by
  unfold valueAt
  rw [getElem?_insert_eq]
  split <;> rfl

theorem valueAt_erase (f : V → Nat) (m : ExtTreeMap K V) (k a : K) :
    valueAt f (m.erase k) a = if k = a then 0 else valueAt f m a := by
  unfold valueAt
  rw [getElem?_erase_eq]
  split <;> rfl

/-- The shares of different keys are parts of the sum. -/
theorem sum_valueAt_le_sumBy (f : V → Nat) (m : ExtTreeMap K V) (keys : Finset K) :
    ∑ k ∈ keys, valueAt f m k ≤ sumBy f m := by
  induction keys using Finset.induction_on generalizing m with
  | empty => exact Nat.zero_le _
  | insert k keys hk ih =>
    have hrest : ∑ a ∈ keys, valueAt f m a = ∑ a ∈ keys, valueAt f (m.erase k) a := by
      apply Finset.sum_congr rfl
      intro a ha
      have hne : k ≠ a := by
        rintro rfl
        exact hk ha
      rw [valueAt_erase, if_neg hne]
    have herase := sumBy_erase f m k
    have hle := ih (m.erase k)
    rw [Finset.sum_insert hk, hrest]
    omega

/-- The entries under one key are the share of that key. -/
theorem sum_toList_ite (f : V → Nat) (m : ExtTreeMap K V) (k : K) :
    (m.toList.map fun entry => if entry.1 = k then f entry.2 else 0).sum = valueAt f m k := by
  have hother : ∀ l : List (K × V), (∀ entry ∈ l, entry.1 ≠ k) →
      (l.map fun entry => if entry.1 = k then f entry.2 else 0).sum = 0 := by
    intro l hl
    rw [List.map_congr_left (g := fun _ => 0) fun entry he => if_neg (hl entry he)]
    simp
  have hkey : ∀ entry ∈ (m.erase k).toList, entry.1 ≠ k := by
    rintro ⟨a, v⟩ hmem rfl
    rw [ExtTreeMap.mem_toList_iff_getElem?_eq_some, getElem?_erase_eq, if_pos rfl] at hmem
    cases hmem
  cases h : m[k]? with
  | none =>
    rw [← erase_eq_self_of_getElem?_eq_none h, hother _ hkey, valueAt, getElem?_erase_eq,
      if_pos rfl]
    rfl
  | some v =>
    rw [((toList_perm_cons_erase h).map _).sum_eq, List.map_cons, List.sum_cons, hother _ hkey,
      valueAt_of_getElem? h]
    simp

/-- A sum over the entries is a sum over any set of keys that covers the entries which
contribute, so the entries of several maps can be compared key by key. -/
theorem sum_toList_eq_sum_keys {M : Type} [AddCommMonoid M] (f : K → V → M)
    (m : ExtTreeMap K V) {keys : Finset K}
    (hkeys : ∀ k v, m[k]? = some v → f k v ≠ 0 → k ∈ keys) :
    (m.toList.map fun entry => f entry.1 entry.2).sum =
      ∑ k ∈ keys, (m[k]?.map (f k)).getD 0 := by
  have hnodup := nodup_keys_toList m
  have hentries : (m.toList.map fun entry => f entry.1 entry.2) =
      (m.toList.map (·.1)).map fun k => (m[k]?.map (f k)).getD 0 := by
    rw [List.map_map]
    refine List.map_congr_left fun entry hentry => ?_
    rw [Function.comp, ExtTreeMap.mem_toList_iff_getElem?_eq_some.mp hentry]
    rfl
  rw [hentries, ← List.sum_toFinset _ hnodup]
  refine Finset.sum_congr_of_eq_on_inter (fun k hk hout => ?_) (fun k _ hout => ?_)
    fun _ _ _ => rfl
  · rw [List.mem_toFinset, List.mem_map] at hk
    obtain ⟨entry, hentry, rfl⟩ := hk
    have hget := ExtTreeMap.mem_toList_iff_getElem?_eq_some.mp hentry
    by_contra hne
    rw [hget] at hne
    exact hout (hkeys _ _ hget hne)
  · rw [List.mem_toFinset, List.mem_map] at hout
    cases hget : m[k]? with
    | none => rfl
    | some v =>
      exact absurd ⟨(k, v), ExtTreeMap.mem_toList_iff_getElem?_eq_some.mpr hget, rfl⟩ hout

/-! ## Saves in a row -/

omit [LawfulEqOrd K] [TransOrd K] [Ord K] in
/-- With distinct keys, a search for a key finds its entry. -/
theorem find?_key_eq_some {α : Type} {key : α → K} {l : List α} {e : α}
    (hl : (l.map key).Nodup) (he : e ∈ l) :
    (l.find? fun x => decide (key x = key e)) = some e := by
  induction l with
  | nil => cases he
  | cons x rest ih =>
    rw [List.map_cons, List.nodup_cons] at hl
    rcases List.mem_cons.mp he with rfl | hrest
    · simp
    · have hne : key x ≠ key e := fun heq => hl.1 (heq ▸ List.mem_map_of_mem hrest)
      rw [List.find?_cons_of_neg (by simpa using hne)]
      exact ih hl.2 hrest

/-- After saves under distinct keys a lookup finds what was saved, or what was there. -/
theorem getElem?_foldl_insert {α : Type} {key : α → K} {val : α → V} {l : List α}
    (hl : (l.map key).Nodup) (m : ExtTreeMap K V) (k : K) :
    (l.foldl (fun m e => m.insert (key e) (val e)) m)[k]? =
      ((l.find? fun e => decide (key e = k)).map val).or m[k]? := by
  induction l generalizing m with
  | nil => rfl
  | cons e rest ih =>
    rw [List.map_cons, List.nodup_cons] at hl
    rw [List.foldl_cons, ih hl.2, getElem?_insert_eq]
    by_cases hk : key e = k
    · have hnone : (rest.find? fun x => decide (key x = k)) = none := by
        rw [List.find?_eq_none]
        intro x hx hxk
        rw [decide_eq_true_eq] at hxk
        exact hl.1 (hk.trans hxk.symm ▸ List.mem_map_of_mem hx)
      rw [hnone, List.find?_cons_of_pos (by simpa using hk), if_pos hk]
      rfl
    · rw [List.find?_cons_of_neg (by simpa using hk), if_neg hk]

/-- After erasures a lookup finds what was there under the other keys. -/
theorem getElem?_foldl_erase (l : List K) (m : ExtTreeMap K V) (k : K) :
    (l.foldl (fun m a => m.erase a) m)[k]? = if k ∈ l then none else m[k]? := by
  induction l generalizing m with
  | nil => rfl
  | cons a rest ih =>
    rw [List.foldl_cons, ih, getElem?_erase_eq]
    by_cases hmem : k ∈ rest
    · rw [if_pos hmem, if_pos (List.mem_cons_of_mem _ hmem)]
    · by_cases ha : a = k
      · rw [if_neg hmem, if_pos ha, ha, if_pos List.mem_cons_self]
      · have hnot : k ∉ a :: rest := by
          rw [List.mem_cons, not_or]
          exact ⟨fun h => ha h.symm, hmem⟩
        rw [if_neg hmem, if_neg ha, if_neg hnot]

/-- What is there after erasures was there before. -/
theorem getElem?_of_foldl_erase {l : List K} {m : ExtTreeMap K V} {k : K} {v : V}
    (h : (l.foldl (fun m a => m.erase a) m)[k]? = some v) : m[k]? = some v := by
  rw [getElem?_foldl_erase] at h
  by_cases hk : k ∈ l
  · rw [if_pos hk] at h
    cases h
  · rw [if_neg hk] at h
    exact h

/-! ## Maps that store no null

Many stores keep an entry only while it says something: a value that is null is
erased instead of saved, so a missing entry and a null one are the same. -/

/-- Save a value, or erase the entry when the value is null. -/
def putUnless (isNull : V → Bool) (m : ExtTreeMap K V) (k : K) (v : V) : ExtTreeMap K V :=
  if isNull v then m.erase k else m.insert k v

/-- No entry of the map is null. -/
def NoNull (isNull : V → Bool) (m : ExtTreeMap K V) : Prop :=
  ∀ (k : K) (v : V), m[k]? = some v → isNull v = false

theorem getElem?_putUnless (isNull : V → Bool) (m : ExtTreeMap K V) (k a : K) (v : V) :
    (putUnless isNull m k v)[a]? =
      if k = a then (if isNull v then none else some v) else m[a]? := by
  unfold putUnless
  cases isNull v <;> simp [getElem?_insert_eq, getElem?_erase_eq]

omit [LawfulEqOrd K] [DecidableEq K] in
theorem noNull_empty (isNull : V → Bool) : NoNull isNull (∅ : ExtTreeMap K V) := by
  intro k v h
  simp at h

theorem NoNull.insert {isNull : V → Bool} {m : ExtTreeMap K V} (h : NoNull isNull m) {k : K}
    {v : V} (hv : isNull v = false) : NoNull isNull (m.insert k v) := by
  intro a w ha
  rw [getElem?_insert_eq] at ha
  by_cases hk : k = a
  · rw [if_pos hk, Option.some.injEq] at ha
    exact ha ▸ hv
  · rw [if_neg hk] at ha
    exact h a w ha

theorem NoNull.erase {isNull : V → Bool} {m : ExtTreeMap K V} (h : NoNull isNull m) (k : K) :
    NoNull isNull (m.erase k) := by
  intro a w ha
  rw [getElem?_erase_eq] at ha
  by_cases hk : k = a
  · rw [if_pos hk] at ha
    cases ha
  · rw [if_neg hk] at ha
    exact h a w ha

theorem NoNull.putUnless {isNull : V → Bool} {m : ExtTreeMap K V} (h : NoNull isNull m) (k : K)
    (v : V) : NoNull isNull (putUnless isNull m k v) := by
  unfold TreeMap.putUnless
  cases hv : isNull v with
  | true => exact h.erase k
  | false => exact h.insert hv

/-- Saves under different keys can be swapped. -/
theorem putUnless_comm (isNull : V → Bool) (m : ExtTreeMap K V) {k l : K} (hkl : k ≠ l) (v w : V) :
    putUnless isNull (putUnless isNull m k v) l w =
      putUnless isNull (putUnless isNull m l w) k v := by
  apply ExtTreeMap.ext_getElem?
  intro a
  simp only [getElem?_putUnless]
  by_cases hk : k = a
  · have hl : l ≠ a := fun hl => hkl (hk.trans hl.symm)
    simp [hk, hl]
  · simp [hk]

/-- A save replaces one share of the sum, if a null value has no share. -/
theorem sumBy_putUnless {f : V → Nat} {isNull : V → Bool} (hf : ∀ v, isNull v = true → f v = 0)
    (m : ExtTreeMap K V) (k : K) (v : V) :
    sumBy f (putUnless isNull m k v) + valueAt f m k = sumBy f m + f v := by
  unfold putUnless
  cases hv : isNull v with
  | true =>
    have := sumBy_erase f m k
    rw [hf v hv]
    simpa using this
  | false => exact sumBy_insert f m k v

theorem valueAt_putUnless {f : V → Nat} {isNull : V → Bool} (hf : ∀ v, isNull v = true → f v = 0)
    (m : ExtTreeMap K V) (k a : K) (v : V) :
    valueAt f (putUnless isNull m k v) a = if k = a then f v else valueAt f m a := by
  unfold putUnless
  cases hv : isNull v with
  | true => simp [valueAt_erase, hf v hv]
  | false => simp [valueAt_insert]

end TreeMap
