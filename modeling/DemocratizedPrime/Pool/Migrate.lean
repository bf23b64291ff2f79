import DemocratizedPrime.Pool.Stored
import DemocratizedPrime.CosmWasm.DecimalText
import Mathlib.Data.Prod.Lex

/-!
# The migration of the pool

`migrate` of the pool does what all contracts do (`migrateContract`), and fills in two roles
that old pools do not have.  The custodian has to be named in the message, unless there is
one already.  The liquidator is the one of the message, or the stored one, or the owner.

`migrate_eq_ok` says exactly when a migration succeeds and what it stores.  The books of the
pool are not among what it writes.
-/

namespace DemocratizedPrime

open Result

/-- The two roles that a migration can set. -/
structure MigrateMsg where
  custodian : Option String
  liquidator : Option String

/-- `CONTRACT_NAME`. -/
def poolContractName : String := "democratized_prime_pool_v2"

/-- How the pool reads and writes its state. -/
def poolLegacyMigration (deps : Deps) : LegacyMigration StoredContractState ContractStateV1 where
  deps
  read json := do
    let state ← json.load
    return ⟨json.admin, state⟩
  write := ContractStateV1.save

/-- Write the contract state in the form of this release. -/
def StoredPool.setContractState (store : StoredPool) (contract : ContractStateV1) : StoredPool :=
  { store with state := contract.save }

/-- The custodian to set, if any.  A pool without one insists on it. -/
def custodianAccount (deps : Deps) (stored : Option Addr) (update : Option String) :
    ContractResult (Option Addr) :=
  match stored, update with
  | none, none =>
    throw (illegalArgument "Custodian account must be set on contract state going forward")
  | _, some addr => do
    let custodian ← deps.addrValidate (trim addr)
    return some custodian
  | some _, none => return none

/-- The liquidator that the message names, if it names one. -/
def liquidatorFromMsg (deps : Deps) (update : Option String) : ContractResult (Option Addr) :=
  match update with
  | some addr => do
    let liquidator ← deps.addrValidate (trim addr)
    return some liquidator
  | none => return none

section

variable (store : StoredPool) (attributes : List (String × String))

/-- Write the custodian, if there is one to write. -/
def saveCustodian (custodian : Option Addr) :
    MigrateResult (StoredPool × List (String × String)) :=
  match custodian with
  | none => return (store, attributes)
  | some custodian => do
    let contract ← fromHost store.state.load
    return (store.setContractState { contract with custodian := some custodian },
      attributes ++ [("custodian", custodian)])

/-- Without a liquidator the owner is the liquidator. -/
def saveLiquidator (liquidator : Option Addr) :
    MigrateResult (StoredPool × List (String × String)) := do
  let contract ← fromHost store.state.load
  match liquidator with
  | some liquidator =>
    return (store.setContractState { contract with liquidator := some liquidator },
      attributes ++ [("liquidator", liquidator)])
  | none =>
    if contract.liquidator.isNone then
      let ownership ← okOr store.ownership (.contract ownershipNotFound)
      let owner ← okOr ownership.owner
        (.contract (illegalState "contract owner not set after migration"))
      return (store.setContractState { contract with liquidator := some owner },
        attributes ++ [("liquidator", owner)])
    else return (store, attributes)

end

/-- `migrate`: the roles of the message are checked, then the version; then the legacy owner
moves, and the roles are written. -/
def migrate (V : Type) [LinearOrder V] [SemVer V] (deps : Deps) (contractVersion : String)
    (store : StoredPool) (msg : MigrateMsg) :
    MigrateResult (StoredPool × List (String × String)) := do
  let contract ← fromHost store.state.load
  let custodian ← fromContract (custodianAccount deps contract.custodian msg.custodian)
  let liquidator ← fromContract (liquidatorFromMsg deps msg.liquidator)
  let (upgraded, attributes) ← migrateContract V store.toUpgradable poolContractName
    contractVersion (some (poolLegacyMigration deps))
  let (store, attributes) ← saveCustodian { store with toUpgradable := upgraded } attributes
    custodian
  saveLiquidator store attributes liquidator

/-! ## The roles -/

/-- The account in a role afterwards: the one of the message if it names one. -/
inductive RoleAfter (deps : Deps) : Option String → Option Addr → Addr → Prop
  | named {address : String} {stored : Option Addr}
      (valid : deps.addrError (trim address) = none) :
      RoleAfter deps (some address) stored (trim address)
  | kept {stored : Option Addr} {role : Addr} (same : stored = some role) :
      RoleAfter deps none stored role

section

variable {deps : Deps} {store : StoredPool} {c : ContractStateV1}
  {attributes : List (String × String)}

theorem custodianAccount_eq_ok {stored : Option Addr} {update : Option String}
    {custodian : Option Addr} :
    custodianAccount deps stored update = .ok custodian ↔
      ∃ role, RoleAfter deps update stored role ∧ custodian = update.map fun _ => role := by
  cases update with
  | none =>
    cases stored with
    | none =>
      constructor
      · intro h
        cases h
      · rintro ⟨role, h, -⟩
        cases h with
        | kept same => cases same
    | some role =>
      simp only [custodianAccount, pure_eq_ok, Option.map_none]
      constructor
      · rintro rfl
        exact ⟨role, .kept rfl, rfl⟩
      · rintro ⟨_, -, rfl⟩
        rfl
  | some address =>
    have hcode : custodianAccount deps stored (some address) = (do
        let custodian ← deps.addrValidate (trim address)
        return some custodian) := by
      cases stored <;> rfl
    rw [hcode]
    simp only [bind_eq_ok, addrValidate_eq_ok, pure_eq_ok, Option.map_some]
    constructor
    · rintro ⟨_, ⟨hvalid, rfl⟩, rfl⟩
      exact ⟨_, .named hvalid, rfl⟩
    · rintro ⟨_, h, rfl⟩
      cases h with
      | named valid => exact ⟨_, ⟨valid, rfl⟩, rfl⟩

theorem liquidatorFromMsg_eq_ok {update : Option String} {liquidator : Option Addr} :
    liquidatorFromMsg deps update = .ok liquidator ↔
      (∀ address, update = some address → deps.addrError (trim address) = none) ∧
        liquidator = update.map trim := by
  cases update with
  | none =>
    rw [liquidatorFromMsg, pure_eq_ok]
    simp [eq_comm]
  | some address =>
    simp only [liquidatorFromMsg, bind_eq_ok, addrValidate_eq_ok, pure_eq_ok, Option.map_some,
      Option.some.injEq, forall_eq']
    constructor
    · rintro ⟨_, ⟨hvalid, rfl⟩, rfl⟩
      exact ⟨hvalid, rfl⟩
    · rintro ⟨hvalid, rfl⟩
      exact ⟨_, ⟨hvalid, rfl⟩, rfl⟩

theorem StoredPool.setContractState_eq (hstate : store.state = c.save) :
    store.setContractState c = store := by
  unfold StoredPool.setContractState
  rw [← hstate]

/-- What has been written can be read back. -/
theorem StoredPool.load_state (hstate : store.state = c.save) :
    fromHost store.state.load = .ok c.withYear := by
  rw [fromHost_eq_ok, hstate]
  exact ContractStateV1.load_save c

/-- The custodian is saved, or is the stored one. -/
theorem saveCustodian_eq (hstate : store.state = c.save) {role : Addr} {update : Option String}
    (hrole : RoleAfter deps update c.custodian role) :
    saveCustodian store attributes (update.map fun _ => role) =
      .ok (store.setContractState { c with custodian := some role },
        attributes ++ (update.map fun _ => ("custodian", role)).toList) := by
  cases hrole with
  | named valid =>
    rw [Option.map_some, saveCustodian, StoredPool.load_state hstate, ok_bind]
    rfl
  | kept same =>
    rw [← same, StoredPool.setContractState_eq hstate]
    simp [saveCustodian, pure, Except.pure]

/-- The attribute of the liquidator, where it was not stored before. -/
def liquidatorAttribute (update : Option String) (stored : Option Addr) (role : Addr) :
    List (String × String) :=
  if update.isSome || stored.isNone then [("liquidator", role)] else []

/-- The liquidator is saved, or is the stored one. -/
theorem saveLiquidator_eq_ok (hstate : store.state = c.save) {ownership : Ownership}
    (hownership : store.ownership = some ownership) {update : Option String}
    {out : StoredPool × List (String × String)}
    (hvalid : ∀ address, update = some address → deps.addrError (trim address) = none) :
    saveLiquidator store attributes (update.map trim) = .ok out ↔
      ∃ role, RoleAfter deps update (c.liquidator.or ownership.owner) role ∧
        out = (store.setContractState { c with liquidator := some role },
          attributes ++ liquidatorAttribute update c.liquidator role) := by
  rw [saveLiquidator, StoredPool.load_state hstate, ok_bind]
  cases update with
  | some address =>
    rw [Option.map_some, pure_eq_ok]
    constructor
    · rintro rfl
      exact ⟨_, .named (hvalid address rfl), rfl⟩
    · rintro ⟨_, hrole, rfl⟩
      cases hrole
      rfl
  | none =>
    rw [Option.map_none]
    obtain ⟨stored, hstored⟩ : ∃ stored, c.liquidator = stored := ⟨_, rfl⟩
    have hyear : c.withYear.liquidator = stored := hstored
    rw [hyear, hstored]
    cases stored with
    | none =>
      rw [Option.isNone_none, if_pos rfl, Option.none_or]
      simp only [hownership, bind_eq_ok, okOr_eq_ok, pure_eq_ok]
      constructor
      · rintro ⟨_, hsome, owner, howner, rfl⟩
        rw [← Option.some.inj hsome] at howner
        exact ⟨owner, .kept howner, rfl⟩
      · rintro ⟨owner, hrole, rfl⟩
        cases hrole with
        | kept same => exact ⟨_, rfl, owner, same, rfl⟩
    | some liquidator =>
      have hsame : { c with liquidator := some liquidator } = c := by rw [← hstored]
      have hcode : (store, attributes) = (store.setContractState c,
          attributes ++ liquidatorAttribute none (some liquidator) liquidator) := by
        rw [StoredPool.setContractState_eq hstate, liquidatorAttribute]
        simp
      rw [Option.isNone_some, if_neg Bool.false_ne_true, pure_eq_ok, Option.some_or, hcode]
      constructor
      · rintro rfl
        exact ⟨liquidator, .kept rfl, by rw [hsame]⟩
      · rintro ⟨_, hrole, rfl⟩
        cases hrole with
        | kept same =>
          rw [← Option.some.inj same, hsame]

/-! ## When it succeeds -/

variable {V : Type} [LinearOrder V] [SemVer V] {contractVersion : String} {msg : MigrateMsg}
  {out : StoredPool × List (String × String)}

/-- What a migration stores, and which attributes it returns: the configuration with both
roles filled, the owner, and the version of the new code.  The books stay as they are. -/
def migrated (store : StoredPool) (contractVersion : String) (msg : MigrateMsg)
    (c : ContractStateV1) (ownership : Ownership) (custodian liquidator : Addr) :
    StoredPool × List (String × String) :=
  ({ store with
      version := ⟨poolContractName, contractVersion⟩
      state := { c with custodian := some custodian, liquidator := some liquidator }.save
      ownership := some ownership },
    ("action", "migrate") :: ((msg.custodian.map fun _ => ("custodian", custodian)).toList ++
      liquidatorAttribute msg.liquidator c.liquidator liquidator))

theorem poolLegacyMigration_read {json : StoredContractState}
    {read : LegacyAdminFlattenState ContractStateV1} :
    (poolLegacyMigration deps).read json = .ok read ↔
      ∃ c, json.load = .ok c ∧ ⟨json.admin, c⟩ = read := by
  simp only [poolLegacyMigration, bind_eq_ok, pure_eq_ok]

/-- A migration succeeds for a pool and a newer version, if the state can be read, an owner
be found and both roles be filled.  It changes the roles, and otherwise only how things are
stored. -/
theorem migrate_eq_ok : migrate V deps contractVersion store msg = .ok out ↔
    store.version.contract = poolContractName ∧
      Newer V store.version.version contractVersion ∧
        ∃ c ownership custodian liquidator, store.state.load = .ok c ∧
          Recovered deps store.state.admin store.ownership ownership ∧
          RoleAfter deps msg.custodian c.custodian custodian ∧
          RoleAfter deps msg.liquidator (c.liquidator.or ownership.owner) liquidator ∧
          out = migrated store contractVersion msg c ownership custodian liquidator := by
  simp only [migrate, bind_eq_ok, Prod.exists, fromHost_eq_ok, fromContract_eq_ok,
    custodianAccount_eq_ok, liquidatorFromMsg_eq_ok, migrateContract_eq_ok,
    poolLegacyMigration_read, Prod.mk.injEq]
  constructor
  · rintro ⟨c, hc, _, ⟨custodian, hcustodian, rfl⟩, _, ⟨hvalid, rfl⟩, _, _, ⟨hname, hnewer, _,
      ownership, ⟨c', hc', rfl⟩, hownership, rfl, rfl⟩, saved, attributes, hsaved, h⟩
    obtain rfl : c = c' := Except.ok.inj (hc.symm.trans hc')
    rw [saveCustodian_eq (c := c) rfl hcustodian] at hsaved
    obtain ⟨rfl, rfl⟩ := Prod.mk.inj (Except.ok.inj hsaved)
    obtain ⟨liquidator, hliquidator, rfl⟩ :=
      (saveLiquidator_eq_ok (c := { c with custodian := some custodian }) rfl rfl hvalid).mp h
    exact ⟨hname, hnewer, c, ownership, custodian, liquidator, hc, hownership, hcustodian,
      hliquidator, rfl⟩
  · rintro ⟨hname, hnewer, c, ownership, custodian, liquidator, hc, hownership, hcustodian,
      hliquidator, rfl⟩
    have hvalid : ∀ address, msg.liquidator = some address →
        deps.addrError (trim address) = none := by
      intro address haddress
      rw [haddress] at hliquidator
      cases hliquidator with
      | named valid => exact valid
    refine ⟨c, hc, _, ⟨custodian, hcustodian, rfl⟩, _, ⟨hvalid, rfl⟩, _, _, ⟨hname, hnewer, _,
      ownership, ⟨c, hc, rfl⟩, hownership, rfl, rfl⟩, _, _,
      saveCustodian_eq (c := c) rfl hcustodian, ?_⟩
    exact (saveLiquidator_eq_ok (c := { c with custodian := some custodian }) rfl rfl hvalid).mpr
      ⟨liquidator, hliquidator, rfl⟩

end

namespace Demo

/-- Versions of three numbers. -/
abbrev Version := Lex (Nat × Lex (Nat × Nat))

instance : SemVer Version where
  parse text :=
    match (text.toList.splitOn '.').map parseUint256 with
    | [some major, some minor, some patch] => some (toLex (major, toLex (minor, patch)))
    | _ => none
  toText version :=
    s!"{(ofLex version).1}.{(ofLex (ofLex version).2).1}.{(ofLex (ofLex version).2).2}"

/-- The numbers are compared as numbers. -/
example : validateContractMigrationVersion Version "1.9.0" "1.10.0" = .ok () := by
  decide +kernel

/-- An older release. -/
def firstRelease : ContractVersion := ⟨poolContractName, "1.1.0"⟩

end Demo

end DemocratizedPrime
