import DemocratizedPrime.Lib.TreeMap

/-!
# Reading a map page by page

`page m prev n` is the answer of a store that is asked for `n` entries after the key
`prev`.  A client that reads the whole store asks in rounds, each time for what comes
after the last key that it has seen, until a page is empty.  The store can change between
two rounds.

`Walk prev maps out` is such a reading: it starts after `prev`, finds one of `maps` in each
round, and collects `out`.

* `Walk.ordered`: the keys come in order, so no key comes twice.
* `Walk.sound`: what is reported was there in some round.
* `Walk.complete`: a key that is there in every round is reported.
* `Walk.eq_toList`: a map that does not change is read as it is.
-/

namespace Paging

open Std

variable {K V : Type} [Ord K] [TransOrd K]

/-! ## One page -/

/-- The key comes after the cursor.  Without a cursor every key does. -/
def isAfter (prev : Option K) (k : K) : Bool :=
  match prev with
  | none => true
  | some p => (compare p k).isLT

/-- The entries after the cursor, in the order of their keys. -/
def remaining (m : ExtTreeMap K V) (prev : Option K) : List (K × V) :=
  m.toList.filter fun entry => isAfter prev entry.1

/-- The next `n` entries after the key `prev`, in the order of the keys. -/
def page (m : ExtTreeMap K V) (prev : Option K) (n : Nat) : List (K × V) :=
  (remaining m prev).take n

/-- The keys of a list of entries come in order. -/
def Ordered (l : List (K × V)) : Prop := l.Pairwise fun a b => compare a.1 b.1 = .lt

theorem remaining_none (m : ExtTreeMap K V) : remaining m none = m.toList := by
  unfold remaining isAfter
  exact List.filter_eq_self.mpr fun _ _ => rfl

omit [TransOrd K] in
theorem isAfter_some {p k : K} : isAfter (some p) k = true ↔ compare p k = .lt :=
  Ordering.isLT_iff_eq_lt

theorem isAfter_trans {prev : Option K} {a b : K} (ha : isAfter prev a = true)
    (hb : compare a b = .lt) : isAfter prev b = true := by
  cases prev with
  | none => rfl
  | some p => exact isAfter_some.mpr (TransCmp.lt_trans (isAfter_some.mp ha) hb)

theorem ordered_toList (m : ExtTreeMap K V) : Ordered m.toList := ExtTreeMap.ordered_keys_toList

theorem ordered_remaining (m : ExtTreeMap K V) (prev : Option K) : Ordered (remaining m prev) :=
  (ordered_toList m).filter _

theorem ordered_page (m : ExtTreeMap K V) (prev : Option K) (n : Nat) :
    Ordered (page m prev n) :=
  (ordered_remaining m prev).sublist (List.take_sublist _ _)

omit [TransOrd K] in
/-- The last entry of an ordered list has the greatest key. -/
theorem Ordered.le_getLast {l : List (K × V)} {last : K × V} (h : Ordered l)
    (hlast : l.getLast? = some last) {entry : K × V} (hentry : entry ∈ l) :
    entry = last ∨ compare entry.1 last.1 = .lt := by
  obtain ⟨front, rfl⟩ := List.getLast?_eq_some_iff.mp hlast
  rcases List.mem_append.mp hentry with hfront | hend
  · exact Or.inr ((List.pairwise_append.mp h).2.2 entry hfront last (List.mem_singleton_self _))
  · exact Or.inl (List.mem_singleton.mp hend)

/-- Two lists in the order of a key that have the same members are the same. -/
theorem eq_of_same_members {α : Type} (key : α → K) {l l' : List α}
    (h : l.Pairwise fun a b => compare (key a) (key b) = .lt)
    (h' : l'.Pairwise fun a b => compare (key a) (key b) = .lt) (hsame : ∀ a, a ∈ l ↔ a ∈ l') :
    l = l' := by
  have hnodup {xs : List α} (hxs : xs.Pairwise fun a b => compare (key a) (key b) = .lt) :
      xs.Nodup := by
    refine hxs.imp fun {a b} hab heq => ?_
    have hself : compare (key b) (key b) = .eq := ReflCmp.compare_self
    rw [heq, hself] at hab
    cases hab
  have hperm : l.Perm l' := (List.perm_ext_iff_of_nodup (hnodup h) (hnodup h')).mpr hsame
  refine hperm.eq_of_pairwise (fun a b _ _ hab hba => ?_) h h'
  rw [OrientedCmp.gt_of_lt hab] at hba
  cases hba

/-- No key comes twice. -/
theorem Ordered.nodup_keys {l : List (K × V)} (h : Ordered l) : (l.map (·.1)).Nodup := by
  refine List.Pairwise.map _ ?_ h
  intro a b hab heq
  have hself : compare b.1 b.1 = .eq := ReflCmp.compare_self
  rw [heq, hself] at hab
  cases hab

/-- A page is empty only when nothing is left. -/
theorem remaining_eq_nil {m : ExtTreeMap K V} {prev : Option K} {n : Nat} (hn : 0 < n)
    (h : page m prev n = []) : remaining m prev = [] := by
  unfold page at h
  rcases List.take_eq_nil_iff.mp h with hzero | hnil
  · exact absurd hzero (Nat.ne_of_gt hn)
  · exact hnil

variable [LawfulEqOrd K]

theorem mem_remaining {m : ExtTreeMap K V} {prev : Option K} {entry : K × V} :
    entry ∈ remaining m prev ↔ m[entry.1]? = some entry.2 ∧ isAfter prev entry.1 = true := by
  unfold remaining
  rw [List.mem_filter]
  exact and_congr_left fun _ => ExtTreeMap.mem_toList_iff_getElem?_eq_some

theorem mem_page {m : ExtTreeMap K V} {prev : Option K} {n : Nat} {entry : K × V}
    (h : entry ∈ page m prev n) : m[entry.1]? = some entry.2 ∧ isAfter prev entry.1 = true :=
  mem_remaining.mp (List.mem_of_mem_take h)

/-- An entry after the cursor is on the page, or it comes after the page. -/
theorem mem_page_or_isAfter {m : ExtTreeMap K V} {prev : Option K} {n : Nat} {k : K} {v : V}
    {last : K × V} (hk : m[k]? = some v) (hprev : isAfter prev k = true)
    (hlast : (page m prev n).getLast? = some last) :
    (k, v) ∈ page m prev n ∨ isAfter (some last.1) k = true := by
  have hmem : (k, v) ∈ remaining m prev := mem_remaining.mpr ⟨hk, hprev⟩
  have hordered := ordered_remaining m prev
  rw [← List.take_append_drop n (remaining m prev)] at hmem
  unfold Ordered at hordered
  rw [← List.take_append_drop n (remaining m prev), List.pairwise_append] at hordered
  rcases List.mem_append.mp hmem with hpage | hlater
  · exact Or.inl hpage
  · exact Or.inr (isAfter_some.mpr
      (hordered.2.2 last (List.mem_of_getLast? hlast) (k, v) hlater))

/-! ## Walks -/

/-- A reading that starts after a cursor.  Each round may ask for a number of its own. -/
inductive Walk : Option K → List (ExtTreeMap K V) → List (K × V) → Prop
  | done {prev : Option K} {m : ExtTreeMap K V} {n : Nat} (positive : 0 < n)
      (empty : page m prev n = []) : Walk prev [m] []
  | more {prev : Option K} {m : ExtTreeMap K V} {n : Nat} {last : K × V}
      {rest : List (ExtTreeMap K V)} {out : List (K × V)}
      (last_eq : (page m prev n).getLast? = some last) (walk : Walk (some last.1) rest out) :
      Walk prev (m :: rest) (page m prev n ++ out)

namespace Walk

variable {prev : Option K} {maps : List (ExtTreeMap K V)} {out : List (K × V)}

theorem ordered (h : Walk prev maps out) :
    Ordered out ∧ ∀ entry ∈ out, isAfter prev entry.1 = true := by
  induction h with
  | done => exact ⟨List.Pairwise.nil, fun _ h => absurd h List.not_mem_nil⟩
  | @more prev m n last rest out last_eq walk ih =>
    have hpage := ordered_page m prev n
    have hafter : ∀ entry ∈ page m prev n, isAfter prev entry.1 = true :=
      fun entry hentry => (mem_page hentry).2
    have hcross : ∀ a ∈ page m prev n, ∀ b ∈ out, compare a.1 b.1 = .lt := by
      intro a ha b hb
      have hlast := isAfter_some.mp (ih.2 b hb)
      rcases hpage.le_getLast last_eq ha with rfl | hlt
      · exact hlast
      · exact TransCmp.lt_trans hlt hlast
    refine ⟨List.pairwise_append.mpr ⟨hpage, ih.1, hcross⟩, fun entry hentry => ?_⟩
    rcases List.mem_append.mp hentry with hfirst | hlater
    · exact hafter entry hfirst
    · exact isAfter_trans (hafter last (List.mem_of_getLast? last_eq))
        (hcross last (List.mem_of_getLast? last_eq) entry hlater)

theorem sound (h : Walk prev maps out) {entry : K × V} (hentry : entry ∈ out) :
    ∃ m ∈ maps, m[entry.1]? = some entry.2 := by
  induction h with
  | done => exact absurd hentry List.not_mem_nil
  | @more prev m n last rest out last_eq walk ih =>
    rcases List.mem_append.mp hentry with hfirst | hlater
    · exact ⟨m, List.mem_cons_self, (mem_page hfirst).1⟩
    · obtain ⟨m', hm', hfound⟩ := ih hlater
      exact ⟨m', List.mem_cons_of_mem _ hm', hfound⟩

theorem complete (h : Walk prev maps out) {k : K} (hprev : isAfter prev k = true)
    (hk : ∀ m ∈ maps, ∃ v, m[k]? = some v) : ∃ v, (k, v) ∈ out := by
  induction h with
  | @done prev m n positive empty =>
    obtain ⟨v, hv⟩ := hk m (List.mem_singleton_self m)
    have hmem : (k, v) ∈ remaining m prev := mem_remaining.mpr ⟨hv, hprev⟩
    rw [remaining_eq_nil positive empty] at hmem
    exact absurd hmem List.not_mem_nil
  | @more prev m n last rest out last_eq walk ih =>
    obtain ⟨v, hv⟩ := hk m List.mem_cons_self
    rcases mem_page_or_isAfter hv hprev last_eq with hpage | hlater
    · exact ⟨v, List.mem_append_left _ hpage⟩
    · obtain ⟨v', hv'⟩ := ih hlater fun m' hm' => hk m' (List.mem_cons_of_mem _ hm')
      exact ⟨v', List.mem_append_right _ hv'⟩

/-- A map that does not change is read as it is. -/
theorem eq_toList {m : ExtTreeMap K V} (h : Walk none maps out) (hm : ∀ m' ∈ maps, m' = m) :
    out = m.toList := by
  have hsame : ∀ entry, entry ∈ out ↔ entry ∈ m.toList := by
    rintro ⟨k, v⟩
    rw [ExtTreeMap.mem_toList_iff_getElem?_eq_some]
    constructor
    · intro hentry
      obtain ⟨m', hm', hfound⟩ := h.sound hentry
      rwa [hm m' hm'] at hfound
    · intro hfound
      obtain ⟨v', hv'⟩ := h.complete rfl fun m' hm' => ⟨v, by rw [hm m' hm']; exact hfound⟩
      obtain ⟨m', hm', hfound'⟩ := h.sound hv'
      rw [hm m' hm', hfound, Option.some.injEq] at hfound'
      rwa [hfound']
  exact eq_of_same_members Prod.fst h.ordered.1 (ordered_toList m) hsame

end Walk

end Paging
