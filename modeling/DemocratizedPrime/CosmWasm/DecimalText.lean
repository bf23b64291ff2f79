import DemocratizedPrime.CosmWasm.Decimal
import Mathlib.Data.List.TakeWhile

/-!
# Decimals as text

Contracts send decimals to each other as text.  `Decimal256.toText` writes one, without
trailing zeros after the point, and `Decimal256.fromStr` reads one back.

Reading inverts writing, `fromStr_toText`.  The whole part and the fraction are texts of
digits, in which there is no point.  The fraction has 18 digits, and the zeros at its end
that are not written are what `fromStr` multiplies back in (`parseFractional_toText`).
-/

namespace DemocratizedPrime

open Result

/-- A number may be written with a plus sign. -/
def withoutSign : List Char → List Char
  | '+' :: digits => digits
  | digits => digits

/-- `Uint256::from_str`: at least one digit. -/
def parseUint256 (text : List Char) : Option Nat :=
  let digits := withoutSign text
  let n := Nat.ofDigitChars 10 digits 0
  if digits ≠ [] ∧ digits.all Char.isDigit ∧ n < 2 ^ 256 then some n else none

namespace Decimal256

/-- What is after the point, in atomics. -/
def parseFractional (text : List Char) : StdResult Nat := do
  let fractional ← okOr (parseUint256 text) "Generic error: Error parsing fractional"
  ensure (text.length ≤ 18) "Generic error: Cannot parse more than 18 fractional digits"
  return fractional * 10 ^ (18 - text.length)

/-- `Decimal256::from_str`. -/
def fromStr (input : String) : StdResult Decimal256 :=
  match input.toList.splitOn '.' with
  | [] => throw "Generic error: Error parsing whole"
  | whole :: rest => do
    let whole ← okOr (parseUint256 whole) "Generic error: Error parsing whole"
    let atomics ← okOr (ofAtomics? (whole * decimalFractional)) "Generic error: Value too big"
    let decimal ← match rest with
      | [] => pure atomics
      | fractional :: _ => do
        let fractional ← parseFractional fractional
        okOr (ofAtomics? (atomics.atomics + fractional)) "Generic error: Value too big"
    ensure (rest.length ≤ 1) "Generic error: Unexpected number of dots"
    return decimal

/-! ## Texts of digits -/

/-- A text of decimal digits. -/
def Digits (text : List Char) : Prop := ∀ c ∈ text, c.isDigit = true

theorem digits_toDigits (n : Nat) : Digits (Nat.toDigits 10 n) :=
  fun _ hc => Nat.isDigit_of_mem_toDigits (by decide) (by decide) hc

/-- What is not a digit is not among them. -/
theorem Digits.not_mem {text : List Char} (h : Digits text) {c : Char}
    (hc : c.isDigit = false) : c ∉ text := by
  intro hmem
  have hdigit := h c hmem
  rw [hc] at hdigit
  cases hdigit

theorem Digits.withoutSign {text : List Char} (h : Digits text) : withoutSign text = text := by
  unfold DemocratizedPrime.withoutSign
  split
  · exact absurd List.mem_cons_self (h.not_mem (by decide))
  · rfl

/-- Digits are read as the number that they write. -/
theorem Digits.parse {text : List Char} (h : Digits text) (hne : text ≠ [])
    (hlt : Nat.ofDigitChars 10 text 0 < 2 ^ 256) :
    parseUint256 text = some (Nat.ofDigitChars 10 text 0) := by
  have hall : text.all Char.isDigit = true := List.all_eq_true.mpr h
  unfold parseUint256
  rw [h.withoutSign]
  exact if_pos ⟨hne, hall, hlt⟩

/-- A number is read as it was written. -/
theorem parseUint256_toDigits {n : Nat} (h : n < 2 ^ 256) :
    parseUint256 (Nat.toDigits 10 n) = some n := by
  have hvalue : Nat.ofDigitChars 10 (Nat.toDigits 10 n) 0 = n := Nat.ofDigitChars_ten_toDigits
  have hparse := (digits_toDigits n).parse Nat.toDigits_ne_nil (by rw [hvalue]; exact h)
  rw [hvalue] at hparse
  exact hparse

/-! ## The fraction -/

/-- The zeros at the end are a tail of zeros. -/
theorem exists_trailing_zeros (text : List Char) :
    ∃ k, text = (text.reverse.dropWhile (· == '0')).reverse ++ List.replicate k '0' := by
  refine ⟨(text.reverse.takeWhile (· == '0')).length, ?_⟩
  have hzeros : text.reverse.takeWhile (· == '0') =
      List.replicate (text.reverse.takeWhile (· == '0')).length '0' := by
    rw [List.eq_replicate_iff]
    refine ⟨rfl, fun c hc => ?_⟩
    have hzero := List.mem_takeWhile_imp (p := (· == '0')) hc
    exact eq_of_beq hzero
  have hsplit : text.reverse.takeWhile (· == '0') ++ text.reverse.dropWhile (· == '0') =
      text.reverse := List.takeWhile_append_dropWhile
  have hreverse := congrArg List.reverse hsplit
  rw [List.reverse_append, List.reverse_reverse, hzeros, List.reverse_replicate] at hreverse
  exact hreverse.symm

/-- The fraction with its 18 digits. -/
def paddedFraction (n : Nat) : List Char :=
  List.replicate (18 - (Nat.toDigits 10 n).length) '0' ++ Nat.toDigits 10 n

/-- The fraction as `toText` shows it. -/
def shownFraction (n : Nat) : List Char :=
  ((paddedFraction n).reverse.dropWhile (· == '0')).reverse

theorem paddedFraction_length {n : Nat} (h : n < 10 ^ 18) : (paddedFraction n).length = 18 := by
  have hlen : (Nat.toDigits 10 n).length ≤ 18 :=
    (Nat.length_toDigits_le_iff (by decide) (by decide)).mpr h
  unfold paddedFraction
  rw [List.length_append, List.length_replicate]
  omega

theorem paddedFraction_value (n : Nat) : Nat.ofDigitChars 10 (paddedFraction n) 0 = n := by
  unfold paddedFraction
  rw [Nat.ofDigitChars_append, Nat.ofDigitChars_replicate_zero, Nat.mul_zero,
    Nat.ofDigitChars_ten_toDigits]

theorem digits_paddedFraction (n : Nat) : Digits (paddedFraction n) := by
  intro c hc
  rw [paddedFraction, List.mem_append] at hc
  rcases hc with hc | hc
  · rw [(List.mem_replicate.mp hc).2]
    decide
  · exact digits_toDigits n c hc

/-- What is shown, and the zeros that are not. -/
theorem shownFraction_spec {n : Nat} (h : n < 10 ^ 18) :
    (shownFraction n).length ≤ 18 ∧ Digits (shownFraction n) ∧
      Nat.ofDigitChars 10 (shownFraction n) 0 * 10 ^ (18 - (shownFraction n).length) = n := by
  obtain ⟨k, hk⟩ := exists_trailing_zeros (paddedFraction n)
  have hk : paddedFraction n = shownFraction n ++ List.replicate k '0' := hk
  have hlength := paddedFraction_length h
  rw [hk, List.length_append, List.length_replicate] at hlength
  have hvalue := paddedFraction_value n
  rw [hk, Nat.ofDigitChars_append, Nat.ofDigitChars_replicate_zero] at hvalue
  have hcount : 18 - (shownFraction n).length = k := by omega
  refine ⟨by omega, fun c hc => ?_, ?_⟩
  · apply digits_paddedFraction n c
    rw [hk]
    exact List.mem_append_left _ hc
  · rw [hcount, Nat.mul_comm]
    exact hvalue

/-- The fraction is read as it was written. -/
theorem parseFractional_shownFraction {n : Nat} (hpos : n ≠ 0) (h : n < 10 ^ 18) :
    parseFractional (shownFraction n) = .ok n := by
  obtain ⟨hlength, hdigits, hvalue⟩ := shownFraction_spec h
  have hne : shownFraction n ≠ [] := by
    intro he
    rw [he] at hvalue
    simp at hvalue
    exact hpos hvalue.symm
  have hle : Nat.ofDigitChars 10 (shownFraction n) 0 ≤ n := by
    have hone : 1 ≤ 10 ^ (18 - (shownFraction n).length) := Nat.one_le_pow _ _ (by decide)
    calc Nat.ofDigitChars 10 (shownFraction n) 0
        ≤ Nat.ofDigitChars 10 (shownFraction n) 0 * 10 ^ (18 - (shownFraction n).length) :=
          Nat.le_mul_of_pos_right _ hone
      _ = n := hvalue
  have hlt : Nat.ofDigitChars 10 (shownFraction n) 0 < 2 ^ 256 :=
    Nat.lt_of_le_of_lt hle (Nat.lt_trans h (by norm_num))
  unfold parseFractional
  rw [hdigits.parse hne hlt]
  simp only [okOr, ensure, if_pos hlength, hvalue, bind, Except.bind, pure, Except.pure]

/-! ## The text of a decimal -/

theorem toText_toList (a : Decimal256) :
    a.toText.toList = if a.atomics % decimalFractional = 0 then
        Nat.toDigits 10 (a.atomics / decimalFractional)
      else Nat.toDigits 10 (a.atomics / decimalFractional) ++
        '.' :: shownFraction (a.atomics % decimalFractional) := by
  unfold toText shownFraction paddedFraction
  dsimp only
  split
  · exact Nat.toList_repr
  · simp [Nat.toList_repr]

theorem fromStr_whole {input : String} {whole : List Char} {n : Nat} {c : Decimal256}
    (hparts : input.toList.splitOn '.' = [whole]) (hwhole : parseUint256 whole = some n)
    (hc : c.atomics = n * decimalFractional) : fromStr input = .ok c := by
  unfold fromStr
  rw [hparts]
  simp only [bind_eq_ok, okOr_eq_ok, ensure_eq_ok, ofAtomics?_eq_some, pure_eq_ok]
  exact ⟨n, hwhole, c, hc, c, rfl, (), by simp, rfl⟩

theorem fromStr_fraction {input : String} {whole fractional : List Char} {n m : Nat}
    {c : Decimal256} (hparts : input.toList.splitOn '.' = [whole, fractional])
    (hwhole : parseUint256 whole = some n) (hfractional : parseFractional fractional = .ok m)
    (hc : c.atomics = n * decimalFractional + m) : fromStr input = .ok c := by
  have hlt : n * decimalFractional < 2 ^ 256 :=
    Nat.lt_of_le_of_lt (by rw [hc]; exact Nat.le_add_right _ _) c.isLt
  unfold fromStr
  rw [hparts]
  simp only [bind_eq_ok, okOr_eq_ok, ensure_eq_ok, ofAtomics?_eq_some, pure_eq_ok]
  exact ⟨n, hwhole, ⟨_, hlt⟩, rfl, m, hfractional, c, hc, (), by simp, rfl⟩

/-- Reading inverts writing. -/
theorem fromStr_toText (a : Decimal256) : fromStr a.toText = .ok a := by
  have hdivide : a.atomics =
      a.atomics / decimalFractional * decimalFractional + a.atomics % decimalFractional :=
    (Nat.div_add_mod' _ _).symm
  have hwhole : parseUint256 (Nat.toDigits 10 (a.atomics / decimalFractional)) =
      some (a.atomics / decimalFractional) :=
    parseUint256_toDigits (Nat.lt_of_le_of_lt (Nat.div_le_self _ _) a.isLt)
  have hpoint : '.' ∉ Nat.toDigits 10 (a.atomics / decimalFractional) :=
    (digits_toDigits _).not_mem (by decide)
  have htext := toText_toList a
  by_cases hfraction : a.atomics % decimalFractional = 0
  · rw [if_pos hfraction] at htext
    rw [hfraction, Nat.add_zero] at hdivide
    apply fromStr_whole _ hwhole hdivide
    rw [htext]
    exact List.splitOn_eq_singleton hpoint
  · have hlt : a.atomics % decimalFractional < 10 ^ 18 := Nat.mod_lt _ (by decide)
    have hshown : '.' ∉ shownFraction (a.atomics % decimalFractional) :=
      (shownFraction_spec hlt).2.1.not_mem (by decide)
    rw [if_neg hfraction] at htext
    apply fromStr_fraction _ hwhole (parseFractional_shownFraction hfraction hlt) hdivide
    rw [htext, List.splitOn_append_cons_self_of_not_mem hpoint, List.splitOn_eq_singleton hshown]

end Decimal256

end DemocratizedPrime
