import DemocratizedPrime.Common.Amounts

/-!
# The bank

Who holds how much of each denomination.  The host moves coins twice in a call: the
coins that are attached go to the contract before it runs, and the contract's sends
leave it afterwards.  A payment that is not covered fails, and the whole transaction
with it.
-/

namespace DemocratizedPrime

open Result

/-- The balance of an address in a denomination. -/
abbrev Bank := Addr → String → Nat

/-- Move one coin from the payer to the payee. -/
def payCoin (payer payee : Addr) (bank : Bank) (coin : Coin) : ContractResult Bank := do
  ensure (coin.amount.val ≤ bank payer coin.denom) (.std "insufficient funds")
  let debited : Bank := fun a d =>
    if a = payer ∧ d = coin.denom then bank a d - coin.amount.val else bank a d
  return fun a d =>
    if a = payee ∧ d = coin.denom then debited a d + coin.amount.val else debited a d

/-- Move the coins one after another; the first that is not covered fails the payment. -/
def payCoins (payer payee : Addr) (bank : Bank) (coins : List Coin) : ContractResult Bank :=
  coins.foldlM (payCoin payer payee) bank

/-- Execute the sends of a contract, in order. -/
def paySends (payer : Addr) (bank : Bank) (sends : List (Addr × List Coin)) :
    ContractResult Bank :=
  sends.foldlM (fun bank send => payCoins payer send.1 bank send.2) bank

theorem payCoin_spec {payer payee : Addr} {bank bank' : Bank} {coin : Coin}
    (h : payCoin payer payee bank coin = .ok bank') (a : Addr) (d : String) :
    bank' a d + (if a = payer then coinsOf d [coin] else 0) =
      bank a d + (if a = payee then coinsOf d [coin] else 0) := by
  simp only [payCoin, bind_eq_ok, ensure_eq_ok, exists_const, pure_eq_ok] at h
  obtain ⟨hcovered, rfl⟩ := h
  simp only [coinsOf_cons, coinsOf_nil, Nat.add_zero]
  by_cases hd : d = coin.denom
  · subst hd
    by_cases hpayer : a = payer
    · subst hpayer
      by_cases hpayee : a = payee
      · simp only [hpayee, and_self, if_true] at hcovered ⊢
        omega
      · simp only [hpayee, false_and, and_self, if_true, if_false]
        omega
    · simp only [hpayer, and_true, if_false]
      split <;> rfl
  · have hd' : ¬ coin.denom = d := fun he => hd he.symm
    simp [hd, hd']

/-- What a payment moves: the payer's balance goes down by the coins, and the payee's
up, unless they are the same. -/
theorem payCoins_spec {payer payee : Addr} {bank bank' : Bank} {coins : List Coin}
    (h : payCoins payer payee bank coins = .ok bank') (a : Addr) (d : String) :
    bank' a d + (if a = payer then coinsOf d coins else 0) =
      bank a d + (if a = payee then coinsOf d coins else 0) := by
  have hloop := foldlM_ok_induct
    (fun done (b : Bank) => b a d + (if a = payer then coinsOf d done else 0) =
      bank a d + (if a = payee then coinsOf d done else 0))
    (fun done coin b b' hb hstep => by
      have hone := payCoin_spec hstep a d
      rw [coinsOf_append, ite_add_zero, ite_add_zero]
      omega) (by simp) h
  exact hloop

/-- A contract pays at most the coins of its sends. -/
theorem paySends_spec {payer : Addr} {bank bank' : Bank} {sends : List (Addr × List Coin)}
    (h : paySends payer bank sends = .ok bank') (d : String) :
    ∃ out ≤ coinsOf d (sends.flatMap (·.2)), bank' payer d + out = bank payer d := by
  have hloop := foldlM_ok_induct
    (fun done (b : Bank) => ∃ out ≤ coinsOf d (done.flatMap (·.2)), b payer d + out = bank payer d)
    (fun done send b b' hb hstep => by
      obtain ⟨out, hle, hout⟩ := hb
      have hone := payCoins_spec hstep payer d
      rw [if_pos rfl] at hone
      rw [List.flatMap_append, coinsOf_append, List.flatMap_singleton]
      by_cases hself : payer = send.1
      · rw [if_pos hself] at hone
        exact ⟨out, by omega, by omega⟩
      · rw [if_neg hself] at hone
        exact ⟨out + coinsOf d send.2, by omega, by omega⟩) ⟨0, Nat.zero_le _, rfl⟩ h
  exact hloop

/-- Who is the only one to be paid gets all of it. -/
theorem paySends_payee {payer payee : Addr} {bank bank' : Bank} {sends : List (Addr × List Coin)}
    (hother : payee ≠ payer) (hto : ∀ send ∈ sends, send.1 = payee)
    (h : paySends payer bank sends = .ok bank') (d : String) :
    bank' payee d = bank payee d + coinsOf d (sends.flatMap (·.2)) := by
  induction sends generalizing bank with
  | nil =>
    rw [paySends, List.foldlM_nil, pure_eq_ok] at h
    rw [h]
    rfl
  | cons send rest ih =>
    unfold paySends at h ih
    rw [List.foldlM_cons, bind_eq_ok] at h
    obtain ⟨mid, hmid, hrest⟩ := h
    have hfirst := payCoins_spec hmid payee d
    rw [if_neg hother, if_pos (hto send List.mem_cons_self).symm] at hfirst
    have hlater := ih (fun send' hmem => hto send' (List.mem_cons_of_mem _ hmem)) hrest
    rw [List.flatMap_cons, coinsOf_append]
    omega

/-! ## Covered payments -/

theorem isOk_payCoins {payer payee : Addr} {bank : Bank} {coins : List Coin}
    (hother : payee ≠ payer) (h : ∀ d, coinsOf d coins ≤ bank payer d) :
    IsOk (payCoins payer payee bank coins) := by
  induction coins generalizing bank with
  | nil => exact isOk_pure
  | cons c rest ih =>
    have hcovered : c.amount.val ≤ bank payer c.denom := by
      have hfirst := h c.denom
      rw [coinsOf_cons, if_pos rfl] at hfirst
      omega
    obtain ⟨bank', hpaid⟩ : IsOk (payCoin payer payee bank c) := IsOk.ensure hcovered isOk_pure
    unfold payCoins at ih ⊢
    rw [List.foldlM_cons]
    refine IsOk.bind hpaid (ih fun d => ?_)
    have hleft := payCoin_spec hpaid payer d
    rw [if_pos rfl, if_neg hother.symm, coinsOf_cons, coinsOf_nil] at hleft
    have hall := h d
    rw [coinsOf_cons] at hall
    omega

/-- Sends to others succeed when the payer holds all their coins. -/
theorem isOk_paySends {payer : Addr} {bank : Bank} {sends : List (Addr × List Coin)}
    (hothers : ∀ send ∈ sends, send.1 ≠ payer)
    (h : ∀ d, coinsOf d (sends.flatMap (·.2)) ≤ bank payer d) :
    IsOk (paySends payer bank sends) := by
  induction sends generalizing bank with
  | nil => exact isOk_pure
  | cons send rest ih =>
    have hother := hothers send List.mem_cons_self
    have hsplit : ∀ d, coinsOf d send.2 + coinsOf d (rest.flatMap (·.2)) ≤ bank payer d := by
      intro d
      rw [← coinsOf_append]
      exact h d
    obtain ⟨bank', hpaid⟩ := isOk_payCoins hother fun d =>
      Nat.le_trans (Nat.le_add_right _ _) (hsplit d)
    unfold paySends at ih ⊢
    rw [List.foldlM_cons]
    refine IsOk.bind hpaid (ih (fun s hs => hothers s (List.mem_cons_of_mem _ hs)) fun d => ?_)
    have hleft := payCoins_spec hpaid payer d
    rw [if_pos rfl, if_neg hother.symm] at hleft
    have hall := hsplit d
    omega

end DemocratizedPrime
