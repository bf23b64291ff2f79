import DemocratizedPrime.CosmWasm.Ownable
import Mathlib.Order.WithBot

/-!
# Migration

When the code of a contract is replaced, the host calls `migrate` of the new code on the
storage of the old.  The three contracts share `migrateContract`.  It insists on the name of
the contract and on a version above the stored one, and it moves old storage to the present
form: the administrator was once a field of the contract's state, and is an owner of its own
now.

Versions are semantic versions.  How they are read and ordered is not the business of this
code, which relies on their order being linear.  The state is stored as JSON, and a contract
says with `LegacyMigration` how it reads and writes its own.

`migrateContract_eq_ok` says when a migration succeeds and with what.
-/

namespace DemocratizedPrime

open Result

/-! ## Versions -/

/-- How a version is read, and how it is shown. -/
class SemVer (V : Type) where
  parse : String → Option V
  toText : V → String

/-- An error of the contract, or one of the two about versions. -/
inductive MigrateError
  | contract (error : ContractError)
  | versionParseError (version : String)
  | unsupportedUpgrade (sourceVersion targetVersion : String)
deriving DecidableEq

/-- What a migration returns: a value, or the error that undoes it. -/
abbrev MigrateResult (α : Type) := Except MigrateError α

/-- The `?` on a result of the contract. -/
def fromContract {α : Type} (x : ContractResult α) : MigrateResult α := x.mapError .contract

/-- The `?` on a result of the host. -/
def fromHost {α : Type} (x : StdResult α) : MigrateResult α := fromContract (fromStd x)

@[simp] theorem fromContract_eq_ok {α : Type} {x : ContractResult α} {a : α} :
    fromContract x = .ok a ↔ x = .ok a :=
  mapError_eq_ok

@[simp] theorem fromHost_eq_ok {α : Type} {x : StdResult α} {a : α} :
    fromHost x = .ok a ↔ x = .ok a := by
  rw [fromHost, fromContract_eq_ok, fromStd_eq_ok]

section

variable (V : Type) [LinearOrder V] [SemVer V]

/-- A migration never goes back to an older version. -/
def validateContractMigrationVersion (currentVersion nextVersion : String) :
    MigrateResult Unit := do
  let current ← okOr (SemVer.parse (V := V) currentVersion) (.versionParseError currentVersion)
  let next ← okOr (SemVer.parse (V := V) nextVersion) (.versionParseError nextVersion)
  ensure (current < next) (.unsupportedUpgrade (SemVer.toText current) (SemVer.toText next))

/-- Both versions can be read, and the second is the newer one. -/
def Newer (currentVersion nextVersion : String) : Prop :=
  ∃ current next : V, SemVer.parse currentVersion = some current ∧
    SemVer.parse nextVersion = some next ∧ current < next

variable {V}

theorem validateContractMigrationVersion_eq_ok {current next : String} {u : Unit} :
    validateContractMigrationVersion V current next = .ok u ↔ Newer V current next := by
  simp only [validateContractMigrationVersion, Newer, bind_eq_ok, okOr_eq_ok, ensure_eq_ok]
  constructor
  · rintro ⟨c, hc, n, hn, hlt⟩
    exact ⟨c, n, hc, hn, hlt⟩
  · rintro ⟨c, n, hc, hn, hlt⟩
    exact ⟨c, hc, n, hn, hlt⟩

/-- The order of versions, with those that cannot be read below all others. -/
def versionRank (version : String) : WithBot V := SemVer.parse version

theorem Newer.rank_lt {current next : String} (h : Newer V current next) :
    versionRank (V := V) current < versionRank next := by
  obtain ⟨c, n, hc, hn, hlt⟩ := h
  unfold versionRank
  rw [hc, hn]
  exact WithBot.coe_lt_coe.mpr hlt

end

/-! ## Storage -/

/-- What `cw2` stores. -/
structure ContractVersion where
  contract : String
  version : String
deriving DecidableEq

/-- A state as old code may have stored it. -/
structure LegacyAdminFlattenState (S : Type) where
  admin : Option Addr
  state : S

/-- The items that a migration reads and writes.  `J` is what the state is stored as. -/
structure Upgradable (J : Type) where
  version : ContractVersion
  state : J
  ownership : Option Ownership

/-- How a contract reads its state, an old one included, and how it writes it. -/
structure LegacyMigration (J S : Type) where
  deps : Deps
  read : J → StdResult (LegacyAdminFlattenState S)
  write : S → J

/-- The error of a read of the ownership item while there is none. -/
def ownershipNotFound : ContractError :=
  .std ("type: cw_ownable::Ownership<cosmwasm_std::addresses::Addr>; " ++
    "key: [6F, 77, 6E, 65, 72, 73, 68, 69, 70] not found")

/-! ## The migration -/

/-- The ownership after a migration.  The old administrator becomes the owner where no
ownership is stored, and is forgotten where one is. -/
def recoverOwnership (deps : Deps) (admin : Option Addr) (stored : Option Ownership) :
    ContractResult Ownership :=
  match admin with
  | some admin =>
    match stored with
    | some ownership => return ownership
    | none => do
      let owner ← deps.addrValidate admin
      return Ownership.initializeOwner owner
  | none => do
    let ownership ← okOr stored ownershipNotFound
    ensure (ownership.owner.isSome = true) (illegalState
      "migrate: contract state has no legacy admin and ownership is missing; cannot recover owner")
    return ownership

section

variable {J S : Type}

/-- Move an owner that an old release kept in its state to the ownership item, and write the
state back without it. -/
def migrateLegacyAdminFromFlattenedState (store : Upgradable J) (legacy : LegacyMigration J S) :
    MigrateResult (Upgradable J) := do
  let migrated ← fromHost (legacy.read store.state)
  let store := { store with state := legacy.write migrated.state }
  let ownership ← fromContract (recoverOwnership legacy.deps migrated.admin store.ownership)
  return { store with ownership := some ownership }

/-- `migrate_contract`, with the attributes of its response.  The name and the version are
those of the new code. -/
def migrateContract (V : Type) [LinearOrder V] [SemVer V] (store : Upgradable J)
    (contractName contractVersion : String) (legacy : Option (LegacyMigration J S)) :
    MigrateResult (Upgradable J × List (String × String)) := do
  ensure (store.version.contract = contractName) (.contract (illegalArgument
    s!"Expected contract name {contractName} got {store.version.contract}"))
  validateContractMigrationVersion V store.version.version contractVersion
  let store := { store with version := ⟨contractName, contractVersion⟩ }
  let store ← match legacy with
    | none => pure store
    | some legacy => migrateLegacyAdminFromFlattenedState store legacy
  return (store, [("action", "migrate")])

/-! ## When it succeeds -/

/-- How an owner is kept, or recovered. -/
inductive Recovered (deps : Deps) : Option Addr → Option Ownership → Ownership → Prop
  | kept {admin : Option Addr} {ownership : Ownership}
      (owned : admin = none → ownership.owner.isSome = true) :
      Recovered deps admin (some ownership) ownership
  | recovered {admin : Addr} (valid : deps.addrError admin = none) :
      Recovered deps (some admin) none (Ownership.initializeOwner admin)

/-- An ownership that is stored stays. -/
theorem Recovered.eq_stored {deps : Deps} {admin : Option Addr} {stored ownership : Ownership}
    (h : Recovered deps admin (some stored) ownership) : ownership = stored := by
  cases h
  rfl

theorem recoverOwnership_eq_ok {deps : Deps} {admin : Option Addr} {stored : Option Ownership}
    {ownership : Ownership} :
    recoverOwnership deps admin stored = .ok ownership ↔
      Recovered deps admin stored ownership := by
  unfold recoverOwnership
  constructor
  · intro h
    cases admin with
    | none =>
      simp only [bind_eq_ok, okOr_eq_ok, ensure_eq_ok, exists_const, pure_eq_ok] at h
      obtain ⟨o, rfl, hsome, rfl⟩ := h
      exact .kept fun _ => hsome
    | some admin =>
      cases stored with
      | none =>
        simp only [bind_eq_ok, addrValidate_eq_ok, pure_eq_ok] at h
        obtain ⟨_, ⟨hvalid, rfl⟩, rfl⟩ := h
        exact .recovered hvalid
      | some o =>
        rw [← pure_eq_ok.mp h]
        exact .kept fun hnone => absurd hnone (Option.some_ne_none _)
  · intro h
    cases h with
    | @kept admin _ owned =>
      cases admin with
      | none => simp [okOr, ensure, owned rfl, bind, Except.bind, pure, Except.pure]
      | some admin => rfl
    | recovered valid =>
      simp only [bind_eq_ok, addrValidate_eq_ok, pure_eq_ok]
      exact ⟨_, ⟨valid, rfl⟩, rfl⟩

/-- A migration succeeds for this contract and a newer version, if the state can be read and
an owner be found.  It rewrites the state and nothing else. -/
theorem migrateContract_eq_ok {V : Type} [LinearOrder V] [SemVer V] {store : Upgradable J}
    {contractName contractVersion : String} {legacy : LegacyMigration J S}
    {out : Upgradable J × List (String × String)} :
    migrateContract V store contractName contractVersion (some legacy) = .ok out ↔
      store.version.contract = contractName ∧ Newer V store.version.version contractVersion ∧
        ∃ migrated ownership, legacy.read store.state = .ok migrated ∧
          Recovered legacy.deps migrated.admin store.ownership ownership ∧
          out = (⟨⟨contractName, contractVersion⟩, legacy.write migrated.state, some ownership⟩,
            [("action", "migrate")]) := by
  simp only [migrateContract, migrateLegacyAdminFromFlattenedState, bind_eq_ok, ensure_eq_ok,
    exists_const, validateContractMigrationVersion_eq_ok, fromHost_eq_ok, fromContract_eq_ok,
    recoverOwnership_eq_ok, pure_eq_ok]
  constructor
  · rintro ⟨hname, hnewer, _, ⟨migrated, hread, ownership, hownership, rfl⟩, rfl⟩
    exact ⟨hname, hnewer, migrated, ownership, hread, hownership, rfl⟩
  · rintro ⟨hname, hnewer, migrated, ownership, hread, hownership, rfl⟩
    exact ⟨hname, hnewer, _, ⟨migrated, hread, ownership, hownership, rfl⟩, rfl⟩

end

end DemocratizedPrime
