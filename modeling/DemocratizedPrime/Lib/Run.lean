import Mathlib.Algebra.Order.BigOperators.Group.List
import Mathlib.Algebra.BigOperators.Group.List.Basic
import Mathlib.Algebra.Order.Group.Defs
import Mathlib.Algebra.Order.Monoid.OrderDual
import Mathlib.Data.List.Chain
import Mathlib.Tactic.Abel

/-!
# Runs of a labelled transition system

`step s a s'` says that the label `a` can take the state `s` to `s'`.  A `Run`
is a finite sequence of such steps, and it remembers each of them as a
`Transition`, so that a quantity can be added up along it.

The rules below carry what one step does over to a run.

* `Run.invariant`: what every step preserves holds at the end.
* `Run.invariant_iff_of_transitions`: what some steps preserve, and which runs have only those.
* `Run.sum_eq`: what every step adds to a quantity adds up along the run, `Run.sum_le`
  and `Run.le_sum` do the same for bounds, and `Run.foldl_eq` folds what every step sets.
* `Run.surplus_ge`: if every step loses at most its own bound, the run loses at
  most the sum of the bounds.
* `Run.simulate`: what a system does is what another does, up to steps that do not show.
* `Run.log_rises`: what steps log in the order of a stamp is an increasing list.

`Clocked` adds a clock that the labels must not turn back.
-/

namespace Transitions

variable {σ ℓ : Type}

/-- One step of a run: where it started, its label, and where it led. -/
structure Transition (σ ℓ : Type) where
  pre : σ
  label : ℓ
  post : σ

/-- A finite sequence of steps, the last one outermost. -/
inductive Run (step : σ → ℓ → σ → Prop) (start : σ) : List (Transition σ ℓ) → σ → Prop
  | nil : Run step start [] start
  | snoc {ts : List (Transition σ ℓ)} {s s' : σ} {a : ℓ} (run : Run step start ts s)
      (h : step s a s') : Run step start (ts ++ [⟨s, a, s'⟩]) s'

namespace Run

variable {step : σ → ℓ → σ → Prop} {start s s' : σ} {ts : List (Transition σ ℓ)}

/-- A step is a run. -/
theorem single {a : ℓ} (h : step s a s') : Run step s [⟨s, a, s'⟩] s' :=
  nil.snoc h

/-- A step in front of a run. -/
theorem cons {a : ℓ} {m : σ} (h : step s a m) (run : Run step m ts s') :
    Run step s (⟨s, a, m⟩ :: ts) s' := by
  induction run with
  | nil => exact single h
  | snoc _ h' ih => exact ih.snoc h'

/-- Two runs, one after the other. -/
theorem append {m : σ} {us : List (Transition σ ℓ)} (run : Run step start ts m)
    (more : Run step m us s) : Run step start (ts ++ us) s := by
  induction more with
  | nil => rwa [List.append_nil]
  | snoc _ h ih =>
    rw [← List.append_assoc]
    exact ih.snoc h

/-- Every recorded transition is a step. -/
theorem isStep (run : Run step start ts s) : ∀ t ∈ ts, step t.pre t.label t.post := by
  induction run with
  | nil => simp
  | snoc _ h ih =>
    intro t ht
    rcases List.mem_append.mp ht with hold | hnew
    · exact ih t hold
    · rw [List.mem_singleton] at hnew
      exact hnew ▸ h

/-- What the start satisfies and every step preserves holds at the end. -/
theorem invariant {I : σ → Prop} (hstep : ∀ s a s', I s → step s a s' → I s')
    (run : Run step start ts s) (hstart : I start) : I s := by
  induction run with
  | nil => exact hstart
  | snoc _ h ih => exact hstep _ _ _ ih h

/-- The invariant holds before every step of the run. -/
theorem invariant_pre {I : σ → Prop} (hstep : ∀ s a s', I s → step s a s' → I s')
    (run : Run step start ts s) (hstart : I start) : ∀ t ∈ ts, I t.pre := by
  induction run with
  | nil => simp
  | snoc run h ih =>
    intro t ht
    rcases List.mem_append.mp ht with hold | hnew
    · exact ih t hold
    · rw [List.mem_singleton] at hnew
      exact hnew ▸ run.invariant hstep hstart

/-- The rule for steps that preserve `I` only when they satisfy `P`. -/
theorem invariant_of_transitions {I : σ → Prop} {P : Transition σ ℓ → Prop}
    (hstep : ∀ s a s', I s → P ⟨s, a, s'⟩ → step s a s' → I s') (run : Run step start ts s)
    (hP : ∀ t ∈ ts, P t) (hstart : I start) : I s := by
  induction run with
  | nil => exact hstart
  | snoc _ h ih =>
    exact hstep _ _ _ (ih fun t ht => hP t (List.mem_append_left _ ht))
      (hP _ (List.mem_append_right _ (List.mem_singleton_self _))) h

/-- It also holds before every step. -/
theorem invariant_pre_of_transitions {I : σ → Prop} {P : Transition σ ℓ → Prop}
    (hstep : ∀ s a s', I s → P ⟨s, a, s'⟩ → step s a s' → I s') (run : Run step start ts s)
    (hP : ∀ t ∈ ts, P t) (hstart : I start) : ∀ t ∈ ts, I t.pre := by
  induction run with
  | nil => simp
  | snoc run h ih =>
    have hbefore := fun t ht => hP t (List.mem_append_left _ ht)
    intro t ht
    rcases List.mem_append.mp ht with hold | hnew
    · exact ih hbefore t hold
    · rw [List.mem_singleton] at hnew
      exact hnew ▸ run.invariant_of_transitions hstep hbefore hstart

/-- When the steps that preserve `I` are those that satisfy `P`, it holds after every step
exactly if all of them do. -/
theorem invariant_iff_of_transitions {I : σ → Prop} {P : Transition σ ℓ → Prop}
    (hstep : ∀ s a s', I s → step s a s' → (I s' ↔ P ⟨s, a, s'⟩)) (run : Run step start ts s)
    (hstart : I start) : (∀ t ∈ ts, I t.post) ↔ ∀ t ∈ ts, P t := by
  constructor
  · intro hpost t ht
    have hpre := run.invariant_pre_of_transitions (P := fun t => I t.post)
      (fun _ _ _ _ hI _ => hI) hpost hstart t ht
    exact (hstep _ _ _ hpre (run.isStep t ht)).mp (hpost t ht)
  · intro hP t ht
    have hkeeps : ∀ s a s', I s → P ⟨s, a, s'⟩ → step s a s' → I s' :=
      fun _ _ _ hI hP h => (hstep _ _ _ hI h).mpr hP
    have hpre := run.invariant_pre_of_transitions hkeeps hP hstart t ht
    exact (hstep _ _ _ hpre (run.isStep t ht)).mpr (hP t ht)

/-- The last state that was recorded is the end. -/
theorem getLast?_posts (run : Run step start ts s) :
    (start :: ts.map (·.post)).getLast? = some s := by
  cases run with
  | nil => rfl
  | snoc run h => rw [List.map_append, ← List.cons_append, List.getLast?_append]; rfl

/-- Each state that was recorded leads to the next. -/
theorem isChain (run : Run step start ts s) :
    List.IsChain (fun a b => ∃ us, Run step a us b) (start :: ts.map (·.post)) := by
  induction run with
  | nil => exact List.isChain_singleton _
  | @snoc ts x x' a run h ih =>
    rw [List.map_append, ← List.cons_append, List.isChain_append]
    refine ⟨ih, List.isChain_singleton _, fun y hy z hz => ?_⟩
    rw [run.getLast?_posts, Option.mem_some_iff] at hy
    simp only [List.map_cons, List.map_nil, List.head?_cons, Option.mem_some_iff] at hz
    subst hy hz
    exact ⟨_, single h⟩

/-- A relation that every step stays in, and that composes, holds between the two
ends of a run. -/
theorem relates {R : σ → σ → Prop} (hrefl : ∀ s, R s s)
    (htrans : ∀ a b c, R a b → R b c → R a c) (hstep : ∀ s a s', step s a s' → R s s')
    (run : Run step start ts s) : R start s := by
  induction run with
  | nil => exact hrefl _
  | snoc _ h ih => exact htrans _ _ _ ih (hstep _ _ _ h)

/-- A run of one system is a run of every system that allows its steps. -/
theorem map {τ κ : Type} {step' : τ → κ → τ → Prop} (f : σ → τ) (g : ℓ → κ)
    (hstep : ∀ s a s', step s a s' → step' (f s) (g a) (f s')) (run : Run step start ts s) :
    Run step' (f start) (ts.map fun t => ⟨f t.pre, g t.label, f t.post⟩) (f s) := by
  induction run with
  | nil => exact nil
  | snoc _ h ih =>
    rw [List.map_append]
    exact ih.snoc (hstep _ _ _ h)

/-- A run of a system in which some steps do not show in another, and the others are steps
there, is a run of the other. -/
theorem simulate {τ κ : Type} {step' : τ → κ → τ → Prop} {R : σ → τ → Prop} {g : ℓ → Option κ}
    (hstep : ∀ s a s' t, R s t → step s a s' →
      (g a = none ∧ R s' t) ∨ ∃ k t', g a = some k ∧ step' t k t' ∧ R s' t')
    {t : τ} (run : Run step start ts s) (hstart : R start t) :
    ∃ us t', Run step' t us t' ∧ R s t' ∧
      us.map (·.label) = ts.filterMap fun u => g u.label := by
  induction run with
  | nil => exact ⟨[], t, nil, hstart, rfl⟩
  | @snoc ts x x' a run h ih =>
    obtain ⟨us, t', hrun, hR, hlabels⟩ := ih
    rw [List.filterMap_append, ← hlabels]
    rcases hstep _ _ _ _ hR h with ⟨hnone, hR'⟩ | ⟨k, t'', hsome, h', hR'⟩
    · exact ⟨us, t', hrun, hR', by simp [hnone]⟩
    · exact ⟨_, t'', hrun.snoc h', hR', by simp [hsome]⟩

/-- A quantity that is higher at the end went up in a step. -/
theorem exists_lt {M : Type} [LinearOrder M] {m : σ → M} (run : Run step start ts s)
    (h : m start < m s) : ∃ t ∈ ts, m t.pre < m t.post := by
  induction run with
  | nil => exact absurd h (lt_irrefl _)
  | @snoc ts x x' a run hstep ih =>
    rcases lt_or_ge (m start) (m x) with hbefore | hle
    · obtain ⟨t, ht, hlt⟩ := ih hbefore
      exact ⟨t, List.mem_append_left _ ht, hlt⟩
    · exact ⟨⟨x, a, x'⟩, List.mem_append_right _ (List.mem_singleton_self _),
        lt_of_le_of_lt hle h⟩

/-- A quantity that gains `g` and loses `l` at every step has gained and lost their sums
at the end. -/
theorem sum_eq {M : Type} [AddCommMonoid M] {I : σ → Prop} {m : σ → M}
    {g l : Transition σ ℓ → M} (hI : ∀ s a s', I s → step s a s' → I s')
    (hstep : ∀ s a s', I s → step s a s' → m s' + l ⟨s, a, s'⟩ = m s + g ⟨s, a, s'⟩)
    (run : Run step start ts s) (hstart : I start) :
    m s + (ts.map l).sum = m start + (ts.map g).sum := by
  induction run with
  | nil => simp
  | @snoc ts x x' a run h ih =>
    have hm := hstep _ _ _ (run.invariant hI hstart) h
    simp only [List.map_append, List.map_cons, List.map_nil, List.sum_append, List.sum_cons,
      List.sum_nil, add_zero]
    calc m x' + ((ts.map l).sum + l ⟨x, a, x'⟩)
        = (m x' + l ⟨x, a, x'⟩) + (ts.map l).sum := by abel
      _ = (m x + (ts.map l).sum) + g ⟨x, a, x'⟩ := by rw [hm]; abel
      _ = m start + ((ts.map g).sum + g ⟨x, a, x'⟩) := by rw [ih]; abel

/-- A quantity that gains at most `g` after a loss of `l` at every step has gained at most
their difference at the end. -/
theorem sum_le {M : Type} [AddCommMonoid M] [PartialOrder M] [IsOrderedAddMonoid M]
    {I : σ → Prop} {P : Transition σ ℓ → Prop} {m : σ → M} {g l : Transition σ ℓ → M}
    (hI : ∀ s a s', I s → P ⟨s, a, s'⟩ → step s a s' → I s')
    (hstep : ∀ s a s', I s → P ⟨s, a, s'⟩ → step s a s' →
      m s' + l ⟨s, a, s'⟩ ≤ m s + g ⟨s, a, s'⟩)
    (run : Run step start ts s) (hP : ∀ t ∈ ts, P t) (hstart : I start) :
    m s + (ts.map l).sum ≤ m start + (ts.map g).sum := by
  induction run with
  | nil => simp
  | @snoc ts x x' a run h ih =>
    have hbefore := fun t ht => hP t (List.mem_append_left _ ht)
    have hlast := hP _ (List.mem_append_right _ (List.mem_singleton_self _))
    have hm := hstep _ _ _ (run.invariant_of_transitions hI hbefore hstart) hlast h
    simp only [List.map_append, List.map_cons, List.map_nil, List.sum_append, List.sum_cons,
      List.sum_nil, add_zero]
    calc m x' + ((ts.map l).sum + l ⟨x, a, x'⟩)
        = (m x' + l ⟨x, a, x'⟩) + (ts.map l).sum := by abel
      _ ≤ (m x + g ⟨x, a, x'⟩) + (ts.map l).sum := add_le_add_left hm _
      _ = (m x + (ts.map l).sum) + g ⟨x, a, x'⟩ := by abel
      _ ≤ (m start + (ts.map g).sum) + g ⟨x, a, x'⟩ := add_le_add_left (ih hbefore) _
      _ = m start + ((ts.map g).sum + g ⟨x, a, x'⟩) := by abel

/-- A quantity that loses at most `l` after a gain of `g` at every step has lost at most
their difference at the end. -/
theorem le_sum {M : Type} [AddCommMonoid M] [PartialOrder M] [IsOrderedAddMonoid M]
    {I : σ → Prop} {P : Transition σ ℓ → Prop} {m : σ → M} {g l : Transition σ ℓ → M}
    (hI : ∀ s a s', I s → P ⟨s, a, s'⟩ → step s a s' → I s')
    (hstep : ∀ s a s', I s → P ⟨s, a, s'⟩ → step s a s' →
      m s + g ⟨s, a, s'⟩ ≤ m s' + l ⟨s, a, s'⟩)
    (run : Run step start ts s) (hP : ∀ t ∈ ts, P t) (hstart : I start) :
    m start + (ts.map g).sum ≤ m s + (ts.map l).sum :=
  run.sum_le (M := Mᵒᵈ) (m := m) (g := g) (l := l) hI hstep hP hstart

/-- A quantity that every step recomputes from its label is at the end what the labels
compute, in order. -/
theorem foldl_eq {M : Type} {I : σ → Prop} {m : σ → M} {f : M → ℓ → M}
    (hI : ∀ s a s', I s → step s a s' → I s')
    (hstep : ∀ s a s', I s → step s a s' → m s' = f (m s) a)
    (run : Run step start ts s) (hstart : I start) :
    m s = (ts.map (·.label)).foldl f (m start) := by
  induction run with
  | nil => rfl
  | snoc run h ih =>
    rw [List.map_append, List.foldl_append, ← ih, hstep _ _ _ (run.invariant hI hstart) h]
    rfl

/-- A surplus that every step lowers by at most its bound is at the end at least
what it was, less the sum of the bounds. -/
theorem surplus_ge {M : Type} [AddCommGroup M] [LinearOrder M] [IsOrderedAddMonoid M]
    {I : σ → Prop} {m : σ → M} {l : Transition σ ℓ → M}
    (hI : ∀ s a s', I s → step s a s' → I s')
    (hstep : ∀ s a s', I s → step s a s' → m s - l ⟨s, a, s'⟩ ≤ m s')
    (run : Run step start ts s) (hstart : I start) :
    m start - (ts.map l).sum ≤ m s := by
  induction run with
  | nil => simp
  | @snoc ts x x' a run h ih =>
    simp only [List.map_append, List.map_cons, List.map_nil, List.sum_append, List.sum_cons,
      List.sum_nil, add_zero]
    calc m start - ((ts.map l).sum + l ⟨x, a, x'⟩)
        = (m start - (ts.map l).sum) - l ⟨x, a, x'⟩ := by abel
      _ ≤ m x - l ⟨x, a, x'⟩ := sub_le_sub_right ih _
      _ ≤ m x' := hstep _ _ _ (run.invariant hI hstart) h

/-- Some steps log a value and set a stamp to it, above the old one, and the others leave
the stamp.  Then the log rises from the first stamp to the last. -/
theorem log_rises {V : Type} [LT V] (stamp : σ → V) (logged : ℓ → Option V)
    (hquiet : ∀ s a s', step s a s' → logged a = none → stamp s' = stamp s)
    (hlogged : ∀ s a s' v, step s a s' → logged a = some v → stamp s < v ∧ stamp s' = v)
    (run : Run step start ts s) :
    List.IsChain (· < ·) (stamp start :: ts.filterMap fun t => logged t.label) ∧
      (stamp start :: ts.filterMap fun t => logged t.label).getLast? = some (stamp s) := by
  induction run with
  | nil => exact ⟨List.isChain_singleton _, rfl⟩
  | @snoc ts x x' a run h ih =>
    rw [List.filterMap_append]
    cases ha : logged a with
    | none =>
      have hlast : [(⟨x, a, x'⟩ : Transition σ ℓ)].filterMap (fun t => logged t.label) = [] := by
        simp [ha]
      rw [hlast, List.append_nil, hquiet _ _ _ h ha]
      exact ih
    | some v =>
      obtain ⟨hlt, hstamp⟩ := hlogged _ _ _ v h ha
      have hlast : [(⟨x, a, x'⟩ : Transition σ ℓ)].filterMap (fun t => logged t.label) = [v] := by
        simp [ha]
      rw [hlast, ← List.cons_append, List.isChain_append, hstamp]
      refine ⟨⟨ih.1, List.isChain_singleton _, fun y hy z hz => ?_⟩,
        List.getLast?_concat⟩
      rw [ih.2, Option.mem_some_iff] at hy
      rw [List.head?_cons, Option.mem_some_iff] at hz
      subst hy hz
      exact hlt

end Run

/-! ## Clocks -/

/-- The steps of a system with a clock: a label carries a time, which must not lie
before the clock, and sets the clock to it. -/
def Clocked {T : Type} [LE T] (time : ℓ → T) (step : σ → ℓ → σ → Prop) :
    σ × T → ℓ → σ × T → Prop :=
  fun s a s' => s.2 ≤ time a ∧ s'.2 = time a ∧ step s.1 a s'.1

/-- Forgetting the clock leaves a run of the system. -/
theorem Run.unclock {T : Type} [LE T] {time : ℓ → T} {step : σ → ℓ → σ → Prop}
    {start s : σ × T} {ts : List (Transition (σ × T) ℓ)}
    (run : Run (Clocked time step) start ts s) :
    Run step start.1 (ts.map fun t => ⟨t.pre.1, t.label, t.post.1⟩) s.1 :=
  run.map Prod.fst id fun _ _ _ h => h.2.2

/-- A run whose labels are in the order of their times is a run with a clock. -/
theorem Run.exists_clocked {T : Type} [LE T] {time : ℓ → T} {step : σ → ℓ → σ → Prop}
    {start s : σ} {ts : List (Transition σ ℓ)} {c : T} (run : Run step start ts s)
    (hclock : List.IsChain (· ≤ ·) (c :: ts.map fun t => time t.label)) :
    ∃ ts' now, Run (Clocked time step) (start, c) ts' (s, now) ∧
      ts'.map (·.label) = ts.map (·.label) := by
  suffices h : ∃ ts' now, now ∈ (c :: ts.map fun t => time t.label).getLast? ∧
      Run (Clocked time step) (start, c) ts' (s, now) ∧ ts'.map (·.label) = ts.map (·.label) by
    obtain ⟨ts', now, -, run', hlabels⟩ := h
    exact ⟨ts', now, run', hlabels⟩
  induction run with
  | nil => exact ⟨[], c, rfl, .nil, rfl⟩
  | @snoc ts m m' a run h ih =>
    rw [List.map_append, ← List.cons_append, List.isChain_append] at hclock
    obtain ⟨hbefore, -, hle⟩ := hclock
    obtain ⟨ts', now, hnow, run', hlabels⟩ := ih hbefore
    refine ⟨ts' ++ [⟨(m, now), a, (m', time a)⟩], time a, ?_, ?_, ?_⟩
    · simp [List.getLast?_cons]
    · exact run'.snoc ⟨hle now hnow (time a) rfl, rfl, h⟩
    · rw [List.map_append, List.map_append, hlabels]
      rfl

end Transitions
