import DemocratizedPrime.Lib.Result
import DemocratizedPrime.Lib.Run

/-!
# Replaying calls

A system whose steps are computed: `exec s k` is what the call `k` does in the state
`s`, an error or a new state with an answer.  `replay` executes a list of calls one
after the other and records each step under the label that `label` makes of the call
and its answer.  What it records is a run (`replay_run`), of any step relation that
the executed steps satisfy.
-/

namespace Transitions

open Result

variable {σ κ ρ ε ℓ : Type}

/-- Execute the calls in order, until one fails. -/
def replay (exec : σ → κ → Except ε (σ × ρ)) (label : κ → ρ → ℓ) (s : σ) :
    List κ → Except ε (List (Transition σ ℓ) × σ)
  | [] => return ([], s)
  | k :: rest => do
    let (s', answer) ← exec s k
    let (ts, last) ← replay exec label s' rest
    return (⟨s, label k answer, s'⟩ :: ts, last)

/-- What was recorded is a run. -/
theorem run_of_replay {exec : σ → κ → Except ε (σ × ρ)} {label : κ → ρ → ℓ}
    {step : σ → ℓ → σ → Prop}
    (hstep : ∀ s k s' answer, exec s k = .ok (s', answer) → step s (label k answer) s')
    {s s' : σ} {calls : List κ} {ts : List (Transition σ ℓ)}
    (h : replay exec label s calls = .ok (ts, s')) : Run step s ts s' := by
  induction calls generalizing s ts with
  | nil =>
    simp only [replay, pure_eq_ok, Prod.mk.injEq] at h
    rw [← h.1, ← h.2]
    exact .nil
  | cons k rest ih =>
    simp only [replay, bind_eq_ok, Prod.exists, pure_eq_ok, Prod.mk.injEq] at h
    obtain ⟨mid, answer, hexec, ts', last, hrest, rfl, rfl⟩ := h
    exact (ih hrest).cons (hstep _ _ _ _ hexec)

/-- It has these calls, if they can be read off the labels. -/
theorem replay_run {exec : σ → κ → Except ε (σ × ρ)} {label : κ → ρ → ℓ} {call : ℓ → κ}
    {step : σ → ℓ → σ → Prop} (hcall : ∀ k answer, call (label k answer) = k)
    (hstep : ∀ s k s' answer, exec s k = .ok (s', answer) → step s (label k answer) s')
    {s s' : σ} {calls : List κ} {ts : List (Transition σ ℓ)}
    (h : replay exec label s calls = .ok (ts, s')) :
    Run step s ts s' ∧ ts.map (fun t => call t.label) = calls := by
  refine ⟨run_of_replay hstep h, ?_⟩
  induction calls generalizing s ts with
  | nil =>
    simp only [replay, pure_eq_ok, Prod.mk.injEq] at h
    rw [← h.1]
    rfl
  | cons k rest ih =>
    simp only [replay, bind_eq_ok, Prod.exists, pure_eq_ok, Prod.mk.injEq] at h
    obtain ⟨mid, answer, hexec, ts', last, hrest, rfl, rfl⟩ := h
    rw [List.map_cons, ih hrest, hcall]

end Transitions
