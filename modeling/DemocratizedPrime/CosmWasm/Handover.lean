import DemocratizedPrime.CosmWasm.Ownable
import DemocratizedPrime.Lib.Provenance

/-!
# Handing over a contract

`update` is a protocol of two messages: the owner offers the contract to an account, and the
account accepts.  In between, anything else can happen, and the owner can replace the
offer.

`WrittenByUpdate` says that a system changes its ownership by `update` only.  Then it always
has an owner (`WrittenByUpdate.owned`), and each change of the owner is the acceptance of
the last offer, made by the owner of that time (`WrittenByUpdate.handedOver`).
-/

namespace DemocratizedPrime

open Result Transitions

/-! ## The two messages -/

/-- A message to the ownership of a contract, with what it reads. -/
structure OwnershipCall where
  deps : Deps
  env : Env
  info : MessageInfo
  action : OwnershipAction

namespace OwnershipCall

variable {o o' : Ownership} {c : OwnershipCall}

/-- The owner offers the contract. -/
structure Offers (c : OwnershipCall) (o : Ownership) (heir : Addr) (expiry : Option Expiration)
    (o' : Ownership) : Prop where
  action : c.action = .transferOwnership heir expiry
  owner : o.owner = some c.info.sender
  after : o' = ⟨some c.info.sender, some heir, expiry⟩

/-- The account that the contract is offered to accepts it in time. -/
structure Accepts (c : OwnershipCall) (o : Ownership) (o' : Ownership) : Prop where
  action : c.action = .acceptOwnership
  heir : o.pendingOwner = some c.info.sender
  inTime : ∀ expiry, o.pendingExpiry = some expiry → expiry.isExpired c.env = false
  after : o' = ⟨some c.info.sender, none, none⟩

/-- A message is one or the other. -/
theorem of_update (h : o.update c.deps c.env c.info c.action = .ok o') :
    (∃ heir expiry, c.Offers o heir expiry o') ∨ c.Accepts o o' := by
  simp only [Ownership.update, bind_eq_ok, ensure_eq_ok, exists_const] at h
  obtain ⟨-, h⟩ := h
  cases haction : c.action with
  | transferOwnership newOwner expiry =>
    rw [haction] at h
    simp only [Ownership.transfer, bind_eq_ok, addrValidate_eq_ok, pure_eq_ok] at h
    obtain ⟨_, howner, _, ⟨-, rfl⟩, rfl⟩ := h
    have hsender : o.owner = some c.info.sender := by
      unfold Ownership.checkOwner at howner
      split at howner
      · rename_i owner hsome
        rw [ensure_eq_ok] at howner
        rw [hsome, howner]
      · cases howner
    exact Or.inl ⟨_, expiry, haction, hsender, by rw [hsender]⟩
  | acceptOwnership =>
    rw [haction] at h
    simp only [Ownership.accept, bind_eq_ok, okOr_eq_ok, ensure_eq_ok, exists_const,
      pure_eq_ok] at h
    obtain ⟨pending, hpending, rfl, htime, rfl⟩ := h
    refine Or.inr ⟨haction, hpending, fun expiry he => ?_, rfl⟩
    rw [he] at htime
    exact htime
  | renounceOwnership =>
    rw [haction] at h
    cases h

end OwnershipCall

/-! ## Systems with an owner -/

section

variable {σ ℓ : Type} {own : σ → Ownership} {asks : ℓ → Option OwnershipCall}
  {step : σ → ℓ → σ → Prop} {start s : σ} {ts : List (Transition σ ℓ)}

/-- A step that asks for it updates the ownership, and no other step does. -/
def WrittenByUpdate (own : σ → Ownership) (asks : ℓ → Option OwnershipCall)
    (step : σ → ℓ → σ → Prop) : Prop :=
  ∀ s a s', step s a s' →
    match asks a with
    | some c => (own s).update c.deps c.env c.info c.action = .ok (own s')
    | none => own s' = own s

/-- How `t` handed over the contract: an earlier step, `offer`, was signed by the owner and
named the heir, no message to the ownership has succeeded since, and in `t` the heir accepts
before the offer expires. -/
def HandedOver (own : σ → Ownership) (asks : ℓ → Option OwnershipCall)
    (before : List (Transition σ ℓ)) (t : Transition σ ℓ) : Prop :=
  ∃ earlier offer later heir expiry c c', before = earlier ++ offer :: later ∧
    asks offer.label = some c ∧ c.Offers (own offer.pre) heir expiry (own offer.post) ∧
    (∀ u ∈ later, asks u.label = none ∧ own u.post = own offer.post) ∧
    own t.pre = own offer.post ∧
    asks t.label = some c' ∧ c'.Accepts (own t.pre) (own t.post)

/-- There is an owner in every state, the first one included, and each change of it is a
handover. -/
structure SafelyOwned (own : σ → Ownership) (asks : ℓ → Option OwnershipCall) (start : σ)
    (ts : List (Transition σ ℓ)) : Prop where
  created : (own start).owner ≠ none
  owned : ∀ t ∈ ts, (own t.post).owner ≠ none
  handedOver : ∀ before t after, ts = before ++ t :: after →
    (own t.post).owner ≠ (own t.pre).owner → HandedOver own asks before t

namespace WrittenByUpdate

theorem owner_stays (h : WrittenByUpdate own asks step) {s s' : σ} {a : ℓ}
    (hs : (own s).owner ≠ none) (hstep : step s a s') : (own s').owner ≠ none := by
  have hwritten := h s a s' hstep
  cases ha : asks a with
  | none =>
    rw [ha] at hwritten
    rw [hwritten]
    exact hs
  | some c =>
    rw [ha] at hwritten
    obtain ⟨heir, expiry, offer⟩ | accepted := OwnershipCall.of_update hwritten
    · rw [offer.after]
      exact Option.some_ne_none _
    · rw [accepted.after]
      exact Option.some_ne_none _

/-- The contract always has an owner. -/
theorem owned (h : WrittenByUpdate own asks step) (run : Run step start ts s)
    (hstart : (own start).owner ≠ none) : ∀ t ∈ ts, (own t.post).owner ≠ none := by
  intro t ht
  have hpre := run.invariant_pre (I := fun s => (own s).owner ≠ none)
    (fun _ _ _ hs hstep => h.owner_stays hs hstep) hstart t ht
  exact h.owner_stays hpre (run.isStep t ht)

/-- Other messages leave the ownership alone. -/
theorem frame (h : WrittenByUpdate own asks step) {s s' : σ} {a : ℓ} (hstep : step s a s')
    (hother : asks a = none) : own s' = own s := by
  have hwritten := h s a s' hstep
  rwa [hother] at hwritten

/-- What stands offered was offered by the last step that wrote the ownership. -/
theorem offered (h : WrittenByUpdate own asks step) (run : Run step start ts s)
    (hstart : (own start).pendingOwner = none) {heir : Addr}
    (hheir : (own s).pendingOwner = some heir) :
    ∃ earlier offer later expiry c, ts = earlier ++ offer :: later ∧
      asks offer.label = some c ∧ c.Offers (own offer.pre) heir expiry (own offer.post) ∧
      own offer.post = own s ∧
      ∀ u ∈ later, asks u.label = none ∧ own u.post = own offer.post := by
  obtain hsame | ⟨earlier, offer, later, rfl, hwrites, hpost, hlater⟩ :=
    run.last_write own (fun a => asks a ≠ none)
      (fun _ _ _ hstep ha => h.frame hstep (not_not.mp ha))
  · rw [hsame, hstart] at hheir
    cases hheir
  · obtain ⟨-, hstep, -⟩ := run.split
    have hwritten := h _ _ _ hstep
    cases hasks : asks offer.label with
    | none => exact absurd hasks hwrites
    | some c =>
      rw [hasks] at hwritten
      rw [← hpost] at hheir
      obtain ⟨heir', expiry, offers⟩ | accepted := OwnershipCall.of_update hwritten
      · rw [offers.after] at hheir
        cases hheir
        refine ⟨earlier, offer, later, expiry, c, rfl, hasks, offers, hpost, fun u hu => ?_⟩
        obtain ⟨hu, hsame⟩ := hlater u hu
        exact ⟨not_not.mp hu, hsame.trans hpost.symm⟩
      · rw [accepted.after] at hheir
        cases hheir

/-- Only the heir of the last offer takes over. -/
theorem handedOver (h : WrittenByUpdate own asks step) (run : Run step start ts s)
    (hstart : (own start).pendingOwner = none) {before after : List (Transition σ ℓ)}
    {t : Transition σ ℓ} (hts : ts = before ++ t :: after)
    (hchange : (own t.post).owner ≠ (own t.pre).owner) : HandedOver own asks before t := by
  subst hts
  obtain ⟨hbefore, hstep, -⟩ := run.split
  have hwritten := h _ _ _ hstep
  cases hasks : asks t.label with
  | none =>
    rw [hasks] at hwritten
    rw [hwritten] at hchange
    exact absurd rfl hchange
  | some c' =>
    rw [hasks] at hwritten
    obtain ⟨heir, expiry, offers⟩ | accepted := OwnershipCall.of_update hwritten
    · -- An offer leaves the owner.
      rw [offers.after, offers.owner] at hchange
      exact absurd rfl hchange
    · obtain ⟨earlier, offer, later, expiry, c, rfl, hoffer, offers, hstands, hlater⟩ :=
        h.offered hbefore hstart accepted.heir
      exact ⟨earlier, offer, later, c'.info.sender, expiry, c, c', rfl, hoffer, offers, hlater,
        hstands.symm, hasks, accepted⟩

theorem safelyOwned (h : WrittenByUpdate own asks step) (run : Run step start ts s) {owner : Addr}
    (hstart : own start = Ownership.initializeOwner owner) : SafelyOwned own asks start ts := by
  have howner : (own start).owner ≠ none := by
    rw [hstart]
    exact Option.some_ne_none _
  have hnone : (own start).pendingOwner = none := by
    rw [hstart]
    rfl
  exact ⟨howner, h.owned run howner,
    fun before t after hts hchange => h.handedOver run hnone hts hchange⟩

end WrittenByUpdate

end

end DemocratizedPrime
