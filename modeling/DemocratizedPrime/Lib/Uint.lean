import Mathlib.Order.Defs.LinearOrder
import Mathlib.Algebra.Ring.Nat

/-!
# Fixed-width unsigned integers

`Uint bits` is a natural number below `2 ^ bits`.  The bound is a field, so a
value that does not fit cannot be built, and an operation that could leave the
range returns an `Option`.  The bound also makes the equations below exact: a
checked operation succeeds with `c` if and only if `c` is the mathematical
result.
-/

/-- A natural number that fits in `bits` bits. -/
@[ext] structure Uint (bits : Nat) where
  val : Nat
  isLt : val < 2 ^ bits
deriving DecidableEq, Repr

namespace Uint

variable {bits : Nat}

/-- The number `n`, when it fits. -/
def ofNat? (bits n : Nat) : Option (Uint bits) :=
  if h : n < 2 ^ bits then some ⟨n, h⟩ else none

/-- Literals are reduced modulo `2 ^ bits`, as in Lean's own fixed-width types. -/
instance (n : Nat) : OfNat (Uint bits) n :=
  ⟨⟨n % 2 ^ bits, Nat.mod_lt _ (Nat.two_pow_pos bits)⟩⟩

instance : ToString (Uint bits) := ⟨fun a => toString a.val⟩

/-- The sum, if it fits. -/
def checkedAdd (a b : Uint bits) : Option (Uint bits) := ofNat? bits (a.val + b.val)

/-- The difference, if it is not negative. -/
def checkedSub (a b : Uint bits) : Option (Uint bits) :=
  if b.val ≤ a.val then ofNat? bits (a.val - b.val) else none

/-- The largest value of the type. -/
def max (bits : Nat) : Uint bits := ⟨2 ^ bits - 1, by have := Nat.two_pow_pos bits; omega⟩

/-- The sum, and the largest value when it would not fit. -/
def saturatingAdd (a b : Uint bits) : Uint bits := (a.checkedAdd b).getD (max bits)

/-- The difference, and zero when it would be negative. -/
def saturatingSub (a b : Uint bits) : Uint bits :=
  ⟨a.val - b.val, Nat.lt_of_le_of_lt (Nat.sub_le _ _) a.isLt⟩

/-- The smaller of two values. -/
def min (a b : Uint bits) : Uint bits := if a.val ≤ b.val then a else b

/-- Whether a value is zero. -/
def isZero (a : Uint bits) : Bool := a.val == 0

@[simp] theorem isZero_iff {a : Uint bits} : a.isZero = true ↔ a.val = 0 := by
  simp [isZero]

@[simp] theorem val_zero : (0 : Uint bits).val = 0 := Nat.zero_mod _

/-- `ofNat?` finds exactly the value it was asked for. -/
theorem ofNat?_eq_some {n : Nat} {c : Uint bits} : ofNat? bits n = some c ↔ c.val = n := by
  unfold ofNat?
  constructor
  · intro h
    split at h
    · rw [← Option.some.inj h]
    · cases h
  · intro h
    have hlt : n < 2 ^ bits := h ▸ c.isLt
    rw [dif_pos hlt]
    exact congrArg some (Uint.ext h.symm)

theorem ofNat?_eq_none {n : Nat} : ofNat? bits n = none ↔ 2 ^ bits ≤ n := by
  simp [ofNat?]

theorem checkedAdd_eq_some {a b c : Uint bits} :
    a.checkedAdd b = some c ↔ c.val = a.val + b.val :=
  ofNat?_eq_some

theorem checkedAdd_eq_none {a b : Uint bits} :
    a.checkedAdd b = none ↔ 2 ^ bits ≤ a.val + b.val :=
  ofNat?_eq_none

theorem checkedSub_eq_some {a b c : Uint bits} :
    a.checkedSub b = some c ↔ c.val + b.val = a.val := by
  unfold checkedSub
  split
  · rw [ofNat?_eq_some]
    omega
  · constructor
    · intro h
      cases h
    · omega

/-- A checked subtraction fails only when it would go below zero. -/
theorem checkedSub_eq_none {a b : Uint bits} : a.checkedSub b = none ↔ a.val < b.val := by
  unfold checkedSub
  have ha := a.isLt
  split
  · rw [ofNat?_eq_none]
    omega
  · simp only [true_iff]
    omega

/-- A saturating sum stops at the largest value. -/
theorem saturatingAdd_val (a b : Uint bits) :
    (a.saturatingAdd b).val = Min.min (a.val + b.val) (2 ^ bits - 1) := by
  unfold saturatingAdd
  cases h : a.checkedAdd b with
  | none =>
    have hover := checkedAdd_eq_none.mp h
    simp only [Option.getD_none, max]
    omega
  | some c =>
    have hfits := c.isLt
    rw [checkedAdd_eq_some.mp h] at hfits
    simp only [Option.getD_some, checkedAdd_eq_some.mp h]
    omega

theorem saturatingAdd_val_le (a b : Uint bits) :
    (a.saturatingAdd b).val ≤ a.val + b.val := by
  rw [saturatingAdd_val]
  exact Nat.min_le_left _ _

theorem le_saturatingAdd_val (a b : Uint bits) : a.val ≤ (a.saturatingAdd b).val := by
  have ha := a.isLt
  rw [saturatingAdd_val]
  omega

@[simp] theorem saturatingSub_val (a b : Uint bits) :
    (a.saturatingSub b).val = a.val - b.val := rfl

@[simp] theorem min_val (a b : Uint bits) : (a.min b).val = Min.min a.val b.val := by
  unfold Uint.min
  split
  · rename_i h
    exact (Nat.min_eq_left h).symm
  · rename_i h
    exact (Nat.min_eq_right (by omega)).symm

end Uint
