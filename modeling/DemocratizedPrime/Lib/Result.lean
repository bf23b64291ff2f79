import Mathlib.Data.List.Basic

/-!
# Rules for code in the error monad

Rust code that returns `Result` is modelled in `Except`.  A proof about such
code asks one of three questions.

* What does a success tell?  `bind_eq_ok`, `ensure_eq_ok` and `okOr_eq_ok`
  turn a successful run into the list of facts that its steps checked.
* Does it succeed?  `IsOk.bind` and `IsOk.ensure` follow the shape of the code.
* Which errors are possible?  `AllErrors P x` says that every error of `x`
  satisfies `P`.  The rules are equivalences that follow the shape of the code,
  so `simp` reduces a bound on the errors of the whole to its steps.

Code that works in place is `InPlace`; `check_bind_run` compares it with code that
returns the new value.

Loops are folds.  `foldlM_ok_induct` is the invariant rule for a successful
loop, and `AllErrors.foldlM` is the rule for its errors.
-/

namespace Result

variable {ε α β : Type}

/-! ## Guards -/

/-- Rust's `ensure!`: stop with `error` unless the condition holds. -/
def ensure (condition : Prop) [Decidable condition] (error : ε) : Except ε Unit :=
  if condition then .ok () else .error error

/-- Rust's `ok_or`: a missing value becomes `error`. -/
def okOr (value : Option α) (error : ε) : Except ε α :=
  match value with
  | some a => .ok a
  | none => .error error

/-! ## What a success tells -/

theorem bind_eq_ok {x : Except ε α} {f : α → Except ε β} {b : β} :
    (x >>= f) = .ok b ↔ ∃ a, x = .ok a ∧ f a = .ok b := by
  cases x <;> simp [bind, Except.bind]

theorem pure_eq_ok {a b : α} : (pure a : Except ε α) = .ok b ↔ a = b := by
  simp [pure, Except.pure]

theorem map_eq_ok {x : Except ε α} {f : α → β} {b : β} :
    (f <$> x) = .ok b ↔ ∃ a, x = .ok a ∧ f a = b := by
  cases x <;> simp [Functor.map, Except.map]

theorem ensure_eq_ok {p : Prop} [Decidable p] {e : ε} {u : Unit} :
    ensure p e = .ok u ↔ p := by
  by_cases h : p <;> simp [ensure, h]

theorem okOr_eq_ok {x : Option α} {e : ε} {a : α} :
    okOr x e = .ok a ↔ x = some a := by
  cases x <;> simp [okOr]

theorem okOr_eq_error {x : Option α} {e : ε} : okOr x e = .error e ↔ x = none := by
  cases x <;> simp [okOr]

theorem mapError_eq_ok {ε' : Type} {x : Except ε α} {f : ε → ε'} {a : α} :
    x.mapError f = .ok a ↔ x = .ok a := by
  cases x <;> simp [Except.mapError]

theorem ok_bind {a : α} {f : α → Except ε β} : (.ok a >>= f) = f a := by
  simp [bind, Except.bind]

/-- A branch that stops is not the branch that a successful run took. -/
theorem ite_error_eq_ok {p : Prop} [Decidable p] {e : ε} {x : Except ε α} {a : α} :
    (if p then .error e else x) = .ok a ↔ ¬ p ∧ x = .ok a := by
  by_cases h : p <;> simp [h]

/-! ## Which errors are possible -/

/-- Every error that `x` can end with satisfies `P`. -/
def AllErrors (P : ε → Prop) (x : Except ε α) : Prop :=
  ∀ e, x = .error e → P e

section

variable {P Q : ε → Prop} {x : Except ε α} {f : α → Except ε β}

theorem AllErrors.mono (h : AllErrors P x) (hPQ : ∀ e, P e → Q e) : AllErrors Q x :=
  fun e he => hPQ e (h e he)

@[simp] theorem allErrors_ok {a : α} : AllErrors P (.ok a : Except ε α) := by
  intro e h
  cases h

@[simp] theorem allErrors_pure {a : α} : AllErrors P (pure a : Except ε α) := allErrors_ok

@[simp] theorem allErrors_error {e : ε} : AllErrors P (.error e : Except ε α) ↔ P e := by
  constructor
  · intro h
    exact h e rfl
  · intro h e' he
    cases he
    exact h

@[simp] theorem allErrors_throw {e : ε} : AllErrors P (throw e : Except ε α) ↔ P e :=
  allErrors_error

/-- The errors of a sequence are those of its first part, and those of its
second part on the results that the first part can return. -/
@[simp] theorem allErrors_bind :
    AllErrors P (x >>= f) ↔ AllErrors P x ∧ ∀ a, x = .ok a → AllErrors P (f a) := by
  cases x with
  | error e => simp [bind, Except.bind]
  | ok a => simp [bind, Except.bind]

@[simp] theorem allErrors_ensure {p : Prop} [Decidable p] {e : ε} :
    AllErrors P (ensure p e) ↔ (¬ p → P e) := by
  by_cases hp : p <;> simp [ensure, hp]

@[simp] theorem allErrors_okOr {v : Option α} {e : ε} :
    AllErrors P (okOr v e) ↔ (v = none → P e) := by
  cases v <;> simp [okOr]

@[simp] theorem allErrors_map {g : α → β} : AllErrors P (g <$> x) ↔ AllErrors P x := by
  cases x <;> simp [AllErrors, Functor.map, Except.map]

@[simp] theorem allErrors_ite {p : Prop} [Decidable p] {y z : Except ε α} :
    AllErrors P (if p then y else z) ↔ (p → AllErrors P y) ∧ (¬ p → AllErrors P z) := by
  by_cases hp : p <;> simp [hp]

/-- A loop ends with an error of one of its rounds. -/
theorem AllErrors.foldlM {step : β → α → Except ε β} (h : ∀ b a, AllErrors P (step b a))
    (l : List α) (b : β) : AllErrors P (l.foldlM step b) := by
  induction l generalizing b with
  | nil => exact allErrors_ok
  | cons a rest ih =>
    rw [List.foldlM_cons, allErrors_bind]
    exact ⟨h b a, fun b' _ => ih b'⟩

/-- A loop over a list ends with an error of a round over one of its elements. -/
theorem AllErrors.foldlM_mem {step : β → α → Except ε β} {l : List α}
    (h : ∀ b, ∀ a ∈ l, AllErrors P (step b a)) (b : β) : AllErrors P (l.foldlM step b) := by
  induction l generalizing b with
  | nil => exact allErrors_ok
  | cons a rest ih =>
    rw [List.foldlM_cons, allErrors_bind]
    have hrest : ∀ b, ∀ a ∈ rest, AllErrors P (step b a) := by
      intro b a ha
      exact h b a (List.mem_cons_of_mem _ ha)
    exact ⟨h b a List.mem_cons_self, fun b' _ => ih hrest b'⟩

theorem AllErrors.forM {step : α → Except ε PUnit} (h : ∀ a, AllErrors P (step a))
    (l : List α) : AllErrors P (l.forM step) := by
  induction l with
  | nil => exact allErrors_ok
  | cons a rest ih =>
    have hcons : (a :: rest).forM step = (step a >>= fun _ => rest.forM step) := rfl
    rw [hcons, allErrors_bind]
    exact ⟨h a, fun _ _ => ih⟩

/-- A first step that succeeds has no errors, -/
theorem AllErrors.bind {a : α} (hx : x = .ok a) (hf : AllErrors P (f a)) :
    AllErrors P (x >>= f) := by
  rw [hx, ok_bind]
  exact hf

/-- and neither has a guard whose condition holds. -/
theorem AllErrors.ensure {p : Prop} [Decidable p] {e : ε} {f : Unit → Except ε β} (hp : p)
    (hf : AllErrors P (f ())) : AllErrors P (ensure p e >>= f) :=
  AllErrors.bind (ensure_eq_ok.mpr hp) hf

/-- An error that is ruled out makes the exceptions of a bound void. -/
theorem AllErrors.imp (h : AllErrors (fun e => Q e → P e) x) (hQ : AllErrors Q x) :
    AllErrors P x :=
  fun e he => h e he (hQ e he)

end

/-! ## Which code succeeds -/

/-- `x` returns a value. -/
def IsOk (x : Except ε α) : Prop := ∃ a, x = .ok a

section

variable {x : Except ε α} {f : α → Except ε β}

theorem isOk_iff : x.isOk = true ↔ IsOk x := by
  unfold IsOk
  cases x <;> simp [Except.isOk, Except.toBool]

theorem isOk_ok {a : α} : IsOk (.ok a : Except ε α) := ⟨a, rfl⟩

theorem isOk_pure {a : α} : IsOk (pure a : Except ε α) := ⟨a, rfl⟩

/-- Code that ends with none of its errors succeeds. -/
theorem AllErrors.isOk {P : ε → Prop} (h : AllErrors P x) (hnot : AllErrors (fun e => ¬ P e) x) :
    IsOk x := by
  cases hx : x with
  | ok a => exact isOk_ok
  | error e => exact absurd (h e hx) (hnot e hx)

/-- A first step whose result is known. -/
theorem IsOk.bind {a : α} (hx : x = .ok a) (hf : IsOk (f a)) : IsOk (x >>= f) := by
  obtain ⟨b, hb⟩ := hf
  exact ⟨b, bind_eq_ok.mpr ⟨a, hx, hb⟩⟩

/-- A first step whose result does not matter. -/
theorem IsOk.bind_any (hx : IsOk x) (hf : ∀ a, x = .ok a → IsOk (f a)) : IsOk (x >>= f) := by
  obtain ⟨a, ha⟩ := hx
  exact IsOk.bind ha (hf a ha)

theorem IsOk.ensure {p : Prop} [Decidable p] {e : ε} {f : Unit → Except ε β} (hp : p)
    (hf : IsOk (f ())) : IsOk (ensure p e >>= f) :=
  IsOk.bind (ensure_eq_ok.mpr hp) hf

end

/-! ## Loops -/

theorem foldlM_ok_induct_from {step : β → α → Except ε β} (I : List α → β → Prop)
    (hstep : ∀ done a b b', I done b → step b a = .ok b' → I (done ++ [a]) b')
    {l done : List α} {b b' : β} (hI : I done b) (h : l.foldlM step b = .ok b') :
    I (done ++ l) b' := by
  induction l generalizing done b with
  | nil =>
    rw [List.foldlM_nil, pure_eq_ok] at h
    rw [List.append_nil]
    exact h ▸ hI
  | cons a rest ih =>
    rw [List.foldlM_cons, bind_eq_ok] at h
    obtain ⟨mid, hmid, hrest⟩ := h
    have := ih (hstep done a b mid hI hmid) hrest
    rwa [List.append_assoc] at this

/-- The invariant rule for a loop that succeeds.  `I done b` relates the part of
the list that the loop has worked through to the state it has built. -/
theorem foldlM_ok_induct {step : β → α → Except ε β} (I : List α → β → Prop)
    (hstep : ∀ done a b b', I done b → step b a = .ok b' → I (done ++ [a]) b')
    {l : List α} {b b' : β} (hI : I [] b) (h : l.foldlM step b = .ok b') : I l b' :=
  foldlM_ok_induct_from I hstep hI h

/-- A loop succeeds when each of its rounds does, whatever state it is in. -/
theorem exists_foldlM_ok {step : β → α → Except ε β} {l : List α}
    (h : ∀ b, ∀ a ∈ l, ∃ b', step b a = .ok b') (b : β) : ∃ b', l.foldlM step b = .ok b' := by
  induction l generalizing b with
  | nil => exact ⟨b, rfl⟩
  | cons a rest ih =>
    obtain ⟨mid, hmid⟩ := h b a List.mem_cons_self
    obtain ⟨b', hb'⟩ := ih (fun b x hx => h b x (List.mem_cons_of_mem _ hx)) mid
    exact ⟨b', by rw [List.foldlM_cons, bind_eq_ok]; exact ⟨mid, hmid, hb'⟩⟩

/-- What a mapping loop returns comes from its list. -/
theorem mem_of_mapM_ok {f : α → Except ε β} {l : List α} {l' : List β} {b : β}
    (h : l.mapM f = .ok l') (hb : b ∈ l') : ∃ a ∈ l, f a = .ok b := by
  induction l generalizing l' with
  | nil =>
    rw [List.mapM_nil, pure_eq_ok] at h
    rw [← h] at hb
    cases hb
  | cons a rest ih =>
    simp only [List.mapM_cons, bind_eq_ok, pure_eq_ok] at h
    obtain ⟨x, hx, xs, hxs, rfl⟩ := h
    rcases List.mem_cons.mp hb with rfl | hrest
    · exact ⟨a, List.mem_cons_self, hx⟩
    · obtain ⟨a', ha', hfa⟩ := ih hxs hrest
      exact ⟨a', List.mem_cons_of_mem _ ha', hfa⟩

/-- A loop without a state succeeds when each of its rounds does. -/
theorem forM_eq_ok {f : α → Except ε PUnit} {l : List α} {u : PUnit} :
    l.forM f = .ok u ↔ ∀ a ∈ l, f a = .ok () := by
  induction l with
  | nil => simp [List.forM, pure, Except.pure]
  | cons a rest ih =>
    have hcons : (a :: rest).forM f = (f a >>= fun _ => rest.forM f) := rfl
    rw [hcons, bind_eq_ok, List.forall_mem_cons]
    constructor
    · rintro ⟨x, hx, hrest⟩
      exact ⟨hx, ih.mp hrest⟩
    · rintro ⟨hx, hrest⟩
      exact ⟨(), hx, ih.mpr hrest⟩

/-! ## Code that works in place -/

section InPlace

variable {σ : Type}

/-- Code with a `&mut` argument of type `σ` that returns `Result<α, ε>`. -/
abbrev InPlace (ε σ α : Type) : Type := ExceptT ε (StateM σ) α

/-- A step that may fail and does not touch the argument. -/
def InPlace.check (x : Except ε α) : InPlace ε σ α := ExceptT.mk (pure x)

/-- A call that returns the new argument, as one that overwrites the old. -/
def overwriting (old : σ) : Except ε σ → Except ε Unit × σ
  | .ok new => (.ok (), new)
  | .error e => (.error e, old)

theorem get_bind_run {old : σ} {f : σ → InPlace ε σ α} :
    ((get >>= f).run old : Except ε α × σ) = (f old).run old := rfl

/-- As long as nothing is written, the in-place code follows the code that returns. -/
theorem check_bind_run {old : σ} {x : Except ε α} {f : α → InPlace ε σ Unit}
    {g : α → Except ε σ} (h : ∀ a, (f a).run old = overwriting old (g a)) :
    (InPlace.check x >>= f).run old = overwriting old (x >>= g) := by
  cases x with
  | ok a => exact h a
  | error e => rfl

end InPlace

end Result
