/-!
# Steps of different users that commute

The users of a state share parts of it, and each of them has parts of its own.  A step of
a user is local when it reads nothing but its user's view, and writes by an effect that
leaves the views of the others alone.

`Locality` is a notion of view and effect of this kind, with effects of different users
that commute as soon as both orders are possible.  `commute_steps` lifts this to steps:
in both orders the state and what each user gets are the same.  Whether a step succeeds may
depend on the shared parts, so the two orders are given by the runs that succeeded.
-/

/-- Views and effects of users on a state.  `Inv` is an invariant of the states that the
steps start from. -/
structure Locality (User State Effect : Type) where
  Inv : State → Prop
  /-- The user sees the same in both states. -/
  Same : User → State → State → Prop
  /-- The effect of the user leads from one state to the other. -/
  Applies : User → Effect → State → State → Prop
  same_refl : ∀ u s, Same u s s
  frame : ∀ {u v e s s'}, u ≠ v → Applies u e s s' → Same v s s'
  commute : ∀ {u v e f s s₁ s₁₂ s₂ s₂₁}, Inv s → u ≠ v → Applies u e s s₁ → Applies v f s₁ s₁₂ →
    Applies v f s s₂ → Applies u e s₂ s₂₁ → s₁₂ = s₂₁

namespace Locality

variable {User State Effect Out : Type} (L : Locality User State Effect)

/-- A step of a user that returns something.  In two states in which the user sees the
same, it returns the same and has the same effect. -/
def Local (u : User) (step : State → State → Out → Prop) : Prop :=
  ∀ s x s' x' o o', L.Same u s x → step s s' o → step x x' o' →
    o = o' ∧ ∃ e, L.Applies u e s s' ∧ L.Applies u e x x'

variable {L} {u v : User} {step step' : State → State → Out → Prop}
  {s s₁ s₁₂ s₂ s₂₁ : State} {a a' b b' : Out}

/-- A local step is not noticed by another user. -/
theorem Local.frame (h : L.Local u step) (huv : u ≠ v) (hs : step s s₁ a) : L.Same v s s₁ := by
  obtain ⟨-, e, he, -⟩ := h s s s₁ s₁ a a (L.same_refl u s) hs hs
  exact L.frame huv he

/-- Two local steps of different users lead to the same state in both orders, and return
the same. -/
theorem commute_steps (hu : L.Local u step) (hv : L.Local v step') (huv : u ≠ v) (hinv : L.Inv s)
    (h₁ : step s s₁ a) (h₁₂ : step' s₁ s₁₂ b) (h₂ : step' s s₂ b') (h₂₁ : step s₂ s₂₁ a') :
    s₁₂ = s₂₁ ∧ a = a' ∧ b = b' := by
  have hsame : L.Same v s s₁ := hu.frame huv h₁
  have hsame' : L.Same u s s₂ := hv.frame (fun heq => huv heq.symm) h₂
  obtain ⟨ha, e, he, he'⟩ := hu s s₂ s₁ s₂₁ a a' hsame' h₁ h₂₁
  obtain ⟨hb, f, hf, hf'⟩ := hv s s₁ s₂ s₁₂ b' b hsame h₂ h₁₂
  exact ⟨L.commute hinv huv he hf' hf he', ha, hb.symm⟩

end Locality
