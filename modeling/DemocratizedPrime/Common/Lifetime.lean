import DemocratizedPrime.Common.Migrate
import DemocratizedPrime.Lib.Run

/-!
# Lifetimes

A contract outlives its code.  Between messages the host may install a later release, and
then calls `migrate`.  `Releasable` is a contract with a stored form, with its messages and
with its migration, and `LifeStep` has both kinds of steps.  Every release executes messages
as the model does, and has a version of its own.

No release can be installed twice, or after a later one (`releases_rising`).  Where a
migration leaves what the contract has loaded as it is, a lifetime shows nothing but
messages (`Releasable.Silent.lifetime`).
-/

namespace DemocratizedPrime

open Result Transitions

/-- A contract whose code can be replaced: what is stored of it, what it has loaded, and its
two kinds of steps. -/
structure Releasable (P S E M : Type) where
  load : P → ContractResult S
  version : P → ContractVersion
  step : S → E → S → Prop
  migrates : Deps → String → M → P → P → Prop

/-- What happens to a deployed contract: a message, or a migration to new code. -/
inductive LifeEvent (E M : Type)
  | message (event : E)
  | upgrade (deps : Deps) (contractVersion : String) (msg : M)

namespace LifeEvent

variable {E M : Type}

/-- The message of an event that is one. -/
def event? : LifeEvent E M → Option E
  | .message event => some event
  | .upgrade .. => none

/-- The version that an event installs. -/
def release? : LifeEvent E M → Option String
  | .message _ => none
  | .upgrade _ contractVersion _ => some contractVersion

end LifeEvent

section

variable {P S E M : Type}

/-- Execute a message on what is stored, or install a release. -/
inductive LifeStep (c : Releasable P S E M) : P → LifeEvent E M → P → Prop
  | message {store store' : P} {s s' : S} {e : E} (loaded : c.load store = .ok s)
      (h : c.step s e s') (saved : c.load store' = .ok s')
      (version : c.version store' = c.version store) : LifeStep c store (.message e) store'
  | upgrade {store store' : P} {deps : Deps} {contractVersion : String} {msg : M}
      (h : c.migrates deps contractVersion msg store store') :
      LifeStep c store (.upgrade deps contractVersion msg) store'

/-- The messages of a lifetime. -/
def messages (ts : List (Transition P (LifeEvent E M))) : List E :=
  ts.filterMap fun t => t.label.event?

/-- The releases of a lifetime. -/
def releases (ts : List (Transition P (LifeEvent E M))) : List String :=
  ts.filterMap fun t => t.label.release?

theorem releases_append (ts us : List (Transition P (LifeEvent E M))) :
    releases (ts ++ us) = releases ts ++ releases us :=
  List.filterMap_append

variable {c : Releasable P S E M} {store₀ store : P} {ts : List (Transition P (LifeEvent E M))}

/-! ## Releases -/

/-- Each version can be read and is above those before it. -/
def Rising (V : Type) [LinearOrder V] [SemVer V] (versions : List String) : Prop :=
  (versions.map fun version => versionRank (V := V) version).Pairwise (· < ·)

/-- A migration leads to a newer version. -/
def Releasable.Versioned (V : Type) [LinearOrder V] [SemVer V] (c : Releasable P S E M) : Prop :=
  ∀ deps contractVersion msg store store',
    c.migrates deps contractVersion msg store store' →
      Newer V (c.version store).version contractVersion ∧
        (c.version store').version = contractVersion

/-- The releases of a lifetime rise, from the version that is stored at its beginning. -/
theorem releases_rising {V : Type} [LinearOrder V] [SemVer V] (hc : c.Versioned V)
    (run : Run (LifeStep c) store₀ ts store) :
    Rising V ((c.version store₀).version :: releases ts) := by
  have hlog := run.log_rises
    (fun store => versionRank (V := V) (c.version store).version)
    (fun a => a.release?.map fun version => versionRank (V := V) version)
    (fun store a store' h hquiet => by
      cases h with
      | message _ _ _ version => rw [version]
      | upgrade => cases hquiet)
    (fun store a store' v h hlogged => by
      cases h with
      | message => cases hlogged
      | upgrade h =>
        obtain ⟨hnewer, hversion⟩ := hc _ _ _ _ _ h
        obtain rfl := Option.some.inj hlogged
        exact ⟨hnewer.rank_lt, congrArg versionRank hversion⟩)
  rw [Rising, List.map_cons, releases, List.map_filterMap]
  exact List.isChain_iff_pairwise.mp hlog.1

/-! ## Silent migrations -/

/-- A migration does not change what is loaded. -/
def Releasable.Silent (c : Releasable P S E M) : Prop :=
  ∀ deps contractVersion msg store store' s, c.load store = .ok s →
    c.migrates deps contractVersion msg store store' → c.load store' = .ok s

/-- Then a lifetime shows its messages and nothing else. -/
theorem Releasable.Silent.lifetime (hc : c.Silent) (run : Run (LifeStep c) store₀ ts store)
    {s₀ : S} (hload : c.load store₀ = .ok s₀) :
    ∃ us s, Run c.step s₀ us s ∧ c.load store = .ok s ∧
      us.map (·.label) = messages ts := by
  refine run.simulate (R := fun store s => c.load store = .ok s)
    (fun store a store' s hs h => ?_) hload
  cases h with
  | message loaded h saved =>
    obtain rfl := Except.ok.inj (hs.symm.trans loaded)
    exact Or.inr ⟨_, _, rfl, h, saved⟩
  | upgrade h => exact Or.inl ⟨rfl, hc _ _ _ _ _ _ hs h⟩

/-! ## Runs as lifetimes -/

/-- The steps of a run, as one release executes them. -/
def underRelease (save : S → P) (us : List (Transition S E)) :
    List (Transition P (LifeEvent E M)) :=
  us.map fun u => ⟨save u.pre, .message u.label, save u.post⟩

theorem releases_underRelease (save : S → P) (us : List (Transition S E)) :
    releases (underRelease (M := M) save us) = [] := by
  simp [releases, underRelease, LifeEvent.release?]

/-- A run of messages is a lifetime without releases, if what is saved can be loaded. -/
theorem lifetime_of_run {I : S → Prop} {save : S → P} {version : ContractVersion}
    (hload : ∀ s, I s → c.load (save s) = .ok s) (hversion : ∀ s, c.version (save s) = version)
    (hI : ∀ s e s', I s → c.step s e s' → I s') {us : List (Transition S E)} {s₀ s : S}
    (run : Run c.step s₀ us s) (hstart : I s₀) :
    Run (LifeStep c) (save s₀) (underRelease save us) (save s) := by
  induction run with
  | nil => exact .nil
  | snoc run h ih =>
    have hpre := run.invariant hI hstart
    have hpost := hI _ _ _ hpre h
    rw [underRelease, List.map_append]
    exact ih.snoc (.message (hload _ hpre) h (hload _ hpost)
      ((hversion _).trans (hversion _).symm))

end

/-! ## Contracts that have only lost their administrator -/

/-- What a contract stores whose state has kept its form, but for the administrator. -/
structure PlainStore (S R : Type) extends Upgradable (LegacyAdminFlattenState S) where
  rest : R

section

variable {S R T E : Type}

/-- The state that the running code reads from what is stored. -/
def PlainStore.load (assemble : S → R → Ownership → T) (store : PlainStore S R) :
    ContractResult T := do
  let ownership ← okOr store.ownership ownershipNotFound
  return assemble store.state.state store.rest ownership

/-- The state is read and written as it is. -/
def plainMigration (deps : Deps) : LegacyMigration (LegacyAdminFlattenState S) S where
  deps
  read state := .ok state
  write state := ⟨none, state⟩

/-- `migrate_contract` is all that such a contract does. -/
def migratePlain (V : Type) [LinearOrder V] [SemVer V] (contractName : String) (deps : Deps)
    (contractVersion : String) (store : PlainStore S R) :
    MigrateResult (PlainStore S R × List (String × String)) := do
  let (upgraded, attributes) ← migrateContract V store.toUpgradable contractName contractVersion
    (some (plainMigration deps))
  return ({ store with toUpgradable := upgraded }, attributes)

/-- Such a contract and its releases. -/
def plainReleases (V : Type) [LinearOrder V] [SemVer V] (contractName : String)
    (assemble : S → R → Ownership → T) (step : T → E → T → Prop) :
    Releasable (PlainStore S R) T E Unit where
  load := PlainStore.load assemble
  version store := store.version
  step
  migrates deps contractVersion _ store store' :=
    ∃ attributes, migratePlain V contractName deps contractVersion store =
      .ok (store', attributes)

variable {V : Type} [LinearOrder V] [SemVer V] {contractName contractVersion : String}
  {deps : Deps} {store store' old : PlainStore S R} {attributes : List (String × String)}
  {assemble : S → R → Ownership → T} {step : T → E → T → Prop}

theorem migratePlain_spec
    (h : migratePlain V contractName deps contractVersion old = .ok (store, attributes)) :
    Newer V old.version.version contractVersion ∧ store.version.version = contractVersion ∧
      ∃ ownership, Recovered deps old.state.admin old.ownership ownership ∧
        store.ownership = some ownership ∧ store.state = ⟨none, old.state.state⟩ ∧
        store.rest = old.rest := by
  simp only [migratePlain, bind_eq_ok, Prod.exists, migrateContract_eq_ok, pure_eq_ok,
    Prod.mk.injEq] at h
  obtain ⟨_, _, ⟨-, hnewer, migrated, ownership, hread, howner, rfl, -⟩, rfl, -⟩ := h
  obtain rfl := Except.ok.inj hread
  exact ⟨hnewer, rfl, ownership, howner, rfl, rfl, rfl⟩

theorem plainReleases_versioned : (plainReleases V contractName assemble step).Versioned V := by
  rintro deps contractVersion msg store store' ⟨attributes, h⟩
  obtain ⟨hnewer, hversion, -⟩ := migratePlain_spec h
  exact ⟨hnewer, hversion⟩

theorem plainReleases_silent : (plainReleases V contractName assemble step).Silent := by
  rintro deps contractVersion msg store store' s hload ⟨attributes, h⟩
  obtain ⟨-, -, ownership, howner, hownership, hstate, hrest⟩ := migratePlain_spec h
  simp only [plainReleases, PlainStore.load, bind_eq_ok, okOr_eq_ok, pure_eq_ok] at hload ⊢
  obtain ⟨stored, hstored, rfl⟩ := hload
  rw [hstored] at howner
  rw [hstate, hrest]
  exact ⟨stored, by rw [hownership, howner.eq_stored], rfl⟩

/-- After the migration of an old contract what it keeps is what was stored, and from then on
its lifetime shows nothing but messages, whatever releases follow. -/
theorem migratePlain_lifetime
    (h : migratePlain V contractName deps contractVersion old = .ok (store, attributes))
    {ts : List (Transition (PlainStore S R) (LifeEvent E Unit))}
    (run : Run (LifeStep (plainReleases V contractName assemble step)) store ts store') :
    (∃ ownership us s, Recovered deps old.state.admin old.ownership ownership ∧
      store.load assemble = .ok (assemble old.state.state old.rest ownership) ∧
      Run step (assemble old.state.state old.rest ownership) us s ∧
      store'.load assemble = .ok s ∧ us.map (·.label) = messages ts) ∧
    Rising V (old.version.version :: contractVersion :: releases ts) := by
  have hfirst : LifeStep (plainReleases V contractName assemble step) old
      (.upgrade deps contractVersion ()) store := .upgrade ⟨attributes, h⟩
  have hrising := releases_rising plainReleases_versioned ((Run.single hfirst).append run)
  rw [releases_append] at hrising
  refine ⟨?_, hrising⟩
  obtain ⟨-, -, ownership, howner, hownership, hstate, hrest⟩ := migratePlain_spec h
  have hload : store.load assemble = .ok (assemble old.state.state old.rest ownership) := by
    simp only [PlainStore.load, bind_eq_ok, okOr_eq_ok, pure_eq_ok]
    exact ⟨ownership, hownership, by rw [hstate, hrest]⟩
  obtain ⟨us, s, hrun, hstore', hlabels⟩ := plainReleases_silent.lifetime run hload
  exact ⟨ownership, us, s, howner, hload, hrun, hstore', hlabels⟩

end

end DemocratizedPrime
