import DemocratizedPrime.Lib.Run
import DemocratizedPrime.Lib.TreeMap

/-!
# Where a value comes from

A run can be cut at each of its transitions (`Run.split`).  If a part of the state is not what it
was at the start, some transition was the last to write it, and it has stood since
(`Run.last_write`).

`latest log k` is what a log has last for a key.  A table that every step updates by the
entries that it logs shows the latest entries of the log (`Run.latest_eq`).
-/

namespace Transitions

variable {σ ℓ V : Type} {step : σ → ℓ → σ → Prop} {start s : σ} {ts : List (Transition σ ℓ)}

/-! ## Cutting a run -/

theorem Run.split {before after : List (Transition σ ℓ)} {t : Transition σ ℓ}
    (run : Run step start (before ++ t :: after) s) :
    Run step start before t.pre ∧ step t.pre t.label t.post ∧ Run step t.post after s := by
  generalize hts : before ++ t :: after = ts at run
  induction run generalizing after with
  | nil => simp at hts
  | @snoc us x x' a run h ih =>
    rcases List.eq_nil_or_concat after with rfl | ⟨init, last, rfl⟩
    · obtain ⟨rfl, hlast⟩ := List.append_inj' hts rfl
      cases hlast
      exact ⟨run, h, .nil⟩
    · rw [List.concat_eq_append, ← List.cons_append, ← List.append_assoc] at hts
      obtain ⟨hinit, hlast⟩ := List.append_inj' hts rfl
      cases hlast
      obtain ⟨hbefore, ht, hafter⟩ := ih hinit
      rw [List.concat_eq_append]
      exact ⟨hbefore, ht, hafter.snoc h⟩

/-- A part of the state that some labels write, and all others leave: it is as it was at the
start, or some transition was the last to write it. -/
theorem Run.last_write (f : σ → V) (writes : ℓ → Prop)
    (hframe : ∀ s a s', step s a s' → ¬ writes a → f s' = f s) (run : Run step start ts s) :
    f s = f start ∨ ∃ before t after, ts = before ++ t :: after ∧ writes t.label ∧
      f t.post = f s ∧ ∀ u ∈ after, ¬ writes u.label ∧ f u.post = f s := by
  induction run with
  | nil => exact Or.inl rfl
  | @snoc us x x' a run h ih =>
    by_cases hwrites : writes a
    · exact Or.inr ⟨us, ⟨x, a, x'⟩, [], rfl, hwrites, rfl, by simp⟩
    · have hsame := hframe x a x' h hwrites
      rcases ih with hstart | ⟨before, t, after, rfl, ht, hpost, hlater⟩
      · exact Or.inl (hsame.trans hstart)
      · refine Or.inr ⟨before, t, after ++ [⟨x, a, x'⟩], by simp, ht, hpost.trans hsame.symm,
          fun u hu => ?_⟩
        rcases List.mem_append.mp hu with hold | hnew
        · obtain ⟨hu, hpost'⟩ := hlater u hold
          exact ⟨hu, hpost'.trans hsame.symm⟩
        · rw [List.mem_singleton.mp hnew]
          exact ⟨hwrites, rfl⟩

/-! ## Logs -/

variable {K : Type} [DecidableEq K]

/-- What a log has last for a key. -/
def latest (log : List (K × V)) (k : K) : Option V :=
  log.foldl (fun found entry => if entry.1 = k then some entry.2 else found) none

theorem latest_append (log more : List (K × V)) (k : K) :
    latest (log ++ more) k = (latest more k).or (latest log k) := by
  have hfrom : ∀ (found : Option V),
      more.foldl (fun found entry => if entry.1 = k then some entry.2 else found) found =
        (latest more k).or found := by
    unfold latest
    induction more using List.reverseRecOn with
    | nil => simp
    | append_singleton more entry ih =>
      intro found
      simp only [List.foldl_append, List.foldl_cons, List.foldl_nil]
      split
      · rfl
      · exact ih found
  unfold latest
  rw [List.foldl_append]
  exact hfrom _

@[simp] theorem latest_nil (k : K) : latest ([] : List (K × V)) k = none := rfl

theorem latest_singleton (entry : K × V) (k : K) :
    latest [entry] k = if entry.1 = k then some entry.2 else none := rfl

theorem mem_of_latest_eq_some {log : List (K × V)} {k : K} {v : V} (h : latest log k = some v) :
    (k, v) ∈ log := by
  induction log using List.reverseRecOn with
  | nil => cases h
  | append_singleton log entry ih =>
    rw [latest_append, latest_singleton, Option.or_eq_some_iff] at h
    rcases h with hnew | ⟨-, hold⟩
    · split at hnew
      · rename_i hk
        rw [← hk, ← Option.some.inj hnew]
        exact List.mem_append_right _ (List.mem_singleton_self entry)
      · cases hnew
    · exact List.mem_append_left _ (ih hold)

/-- What a run logged last for a key, one of its steps logged, and no later step logged the
key again. -/
theorem latest_flatMap_eq_some {α : Type} {logged : α → List (K × V)} {l : List α} {k : K} {v : V}
    (h : latest (l.flatMap logged) k = some v) :
    ∃ earlier x later, l = earlier ++ x :: later ∧ (k, v) ∈ logged x ∧
      ∀ y ∈ later, latest (logged y) k = none := by
  induction l using List.reverseRecOn with
  | nil => cases h
  | append_singleton l x ih =>
    rw [List.flatMap_append, List.flatMap_singleton, latest_append, Option.or_eq_some_iff] at h
    rcases h with hnew | ⟨hnone, hold⟩
    · exact ⟨l, x, [], rfl, mem_of_latest_eq_some hnew, by simp⟩
    · obtain ⟨earlier, y, later, rfl, hy, hlater⟩ := ih hold
      refine ⟨earlier, y, later ++ [x], by simp, hy, fun z hz => ?_⟩
      rcases List.mem_append.mp hz with hbefore | hlast
      · exact hlater z hbefore
      · rw [List.mem_singleton.mp hlast]
        exact hnone

theorem latest_map_snd {W : Type} (f : V → W) (log : List (K × V)) (k : K) :
    latest (log.map fun entry => (entry.1, f entry.2)) k = (latest log k).map f := by
  induction log using List.reverseRecOn with
  | nil => rfl
  | append_singleton log entry ih =>
    rw [List.map_append, List.map_singleton, latest_append, latest_append, ih, latest_singleton,
      latest_singleton]
    split <;> simp

/-- The same entry for each of some keys. -/
theorem latest_map_const (keys : List K) (v : V) (k : K) :
    latest (keys.map fun a => (a, v)) k = if k ∈ keys then some v else none := by
  induction keys using List.reverseRecOn with
  | nil => rfl
  | append_singleton keys a ih =>
    rw [List.map_append, List.map_singleton, latest_append, ih, latest_singleton]
    by_cases ha : a = k
    · simp [ha]
    · have hne : k ≠ a := fun he => ha he.symm
      simp [ha, hne]

/-- Saving entries one after the other leaves the latest of them. -/
theorem getElem?_foldl_insert_eq_latest [Ord K] [Std.TransOrd K] [Std.LawfulEqOrd K] {α : Type}
    (key : α → K) (val : α → V) (l : List α) (m : Std.ExtTreeMap K V) (k : K) :
    (l.foldl (fun m e => m.insert (key e) (val e)) m)[k]? =
      (latest (l.map fun e => (key e, val e)) k).or m[k]? := by
  induction l using List.reverseRecOn with
  | nil => rfl
  | append_singleton l e ih =>
    rw [List.foldl_append, List.foldl_cons, List.foldl_nil, TreeMap.getElem?_insert_eq, ih,
      List.map_append, List.map_singleton, latest_append, latest_singleton]
    split <;> simp

/-- A table that every step updates by what it logs. -/
theorem Run.latest_eq {W : Type} {T : σ → K → W} {read : V → W} {logged : ℓ → List (K × V)}
    (hstep : ∀ s a s', step s a s' → ∀ k,
      T s' k = (latest (logged a) k).elim (T s k) read)
    (run : Run step start ts s) (k : K) :
    T s k = (latest (ts.flatMap fun t => logged t.label) k).elim (T start k) read := by
  induction run with
  | nil => rfl
  | @snoc us x x' a run h ih =>
    rw [hstep _ _ _ h k, ih, List.flatMap_append, latest_append, List.flatMap_singleton]
    cases latest (logged a) k <;> rfl

end Transitions
