import PipelinesOperator.Proofs.Credential.Fields
import PipelinesOperator.Proofs.Text.Split
import PipelinesOperator.Resolution.Plan

/-!
# What plans say

A plan that is made carries the name and the namespace of its application, and refers to a
secret of the user's or to one of the two that the operator names after the application.

## Main definitions

* `CredentialReference.ofOperator`: the operator's own secret for a credential

## Main results

* `CredentialReference.ofOperator_place_inj`: no two secrets of the operator have one place
* `identify_eq_ok`: when an application is identified, and as what
* `plan_eq_ok`: the parts that a plan is made of
* `plan_database`, `plan_storage`: the references of a plan
-/

namespace PipelinesOperator

theorem nonEmpty_eq_some {value : Option String} {s : String} :
    nonEmpty value = some s ↔ value = some s ∧ s ≠ "" := by
  rw [nonEmpty, Option.filter_eq_some_iff]
  simp

theorem nonEmpty_eq_none {value : Option String} :
    nonEmpty value = none ↔ value = none ∨ value = some "" := by
  cases value with
  | none => simp [nonEmpty]
  | some s => simp [nonEmpty]

/-- The two kinds of names of the operator's secrets are told apart by how they begin. -/
theorem Names.databaseSecret_ne_storageSecret (name name' : String) :
    databaseSecret name ≠ storageSecret name' :=
  Text.append_ne_append (by decide) (by decide) name name'

namespace CredentialReference

/-- The secret in which the operator keeps a credential of an application. -/
def ofOperator (kind : CredentialKind) (space name : String) : CredentialReference :=
  match kind with
  | .databasePassword => database space name none
  | .storageKeys => storage space name none

/-- No two secrets of the operator have one place.  The kind is told by the prefix of the name, and
the application by what follows the prefix. -/
theorem ofOperator_place_inj {kind kind' : CredentialKind} {space space' name name' : String} :
    ((ofOperator kind space name).space, (ofOperator kind space name).name) =
        ((ofOperator kind' space' name').space, (ofOperator kind' space' name').name) ↔
      kind = kind' ∧ space = space' ∧ name = name' := by
  constructor
  · intro heq
    obtain ⟨hspace, hname⟩ := Prod.mk.inj heq
    cases kind with
    | databasePassword =>
      cases kind' with
      | databasePassword => exact ⟨rfl, hspace, (String.append_right_inj _).mp hname⟩
      | storageKeys => exact absurd hname (Names.databaseSecret_ne_storageSecret name name')
    | storageKeys =>
      cases kind' with
      | databasePassword =>
        exact absurd hname.symm (Names.databaseSecret_ne_storageSecret name' name)
      | storageKeys => exact ⟨rfl, hspace, (String.append_right_inj _).mp hname⟩
  · rintro ⟨rfl, rfl, rfl⟩
    rfl

end CredentialReference

namespace Plan

/-- The password of a database is kept where the user or the operator keeps it. -/
theorem databaseOf_credentials (r : Registry) (name space : String) (d : Database) :
    ∃ custom, (databaseOf r name space d).credentials = .database space name custom := by
  rw [databaseOf]
  split
  · rename_i e _
    exact ⟨some e.passwordSecret, rfl⟩
  · rename_i block _
    exact ⟨customPassword (block.getD { deploy := true }), rfl⟩

/-- The keys of object storage are kept where the user or the operator keeps them. -/
theorem storageOf_credentials {name space : String} {o : ObjectStorage} {s : StoragePlan}
    (h : storageOf name space o = .ok s) :
    ∃ custom, s.credentials = .storage space name custom := by
  rw [storageOf] at h
  split at h
  · cases h
  · rename_i e _
    obtain rfl := Except.ok.inj h
    exact ⟨some e.credentials, rfl⟩
  · rename_i block _
    split at h
    · cases h
    · obtain rfl := Except.ok.inj h
      exact ⟨customKeys block, rfl⟩

end Plan

namespace Application

variable {r : Registry} {a : Application} {p : Plan}

/-- An application is identified by a name and a namespace that are not empty. -/
theorem identify_eq_ok {i : Identity} : a.identify = .ok i ↔
    (a.metadata.name = some i.name ∧ i.name ≠ "") ∧
    (a.metadata.space = some i.space ∧ i.space ≠ "") ∧
    Family.resolve a.spec.components.dspVersion a.spec.components.engineDriver =
      .ok i.family := by
  rw [← nonEmpty_eq_some, ← nonEmpty_eq_some, identify]
  cases hn : nonEmpty a.metadata.name with
  | none => simp
  | some name =>
    cases hs : nonEmpty a.metadata.space with
    | none => simp
    | some space =>
      simp only [Except.map_eq_ok, Option.some.injEq]
      constructor
      · rintro ⟨family, hf, rfl⟩
        exact ⟨rfl, rfl, hf⟩
      · rintro ⟨rfl, rfl, hf⟩
        exact ⟨i.family, hf, rfl⟩

/-- The parts of a plan. -/
theorem plan_eq_ok (h : a.plan r = .ok p) :
    a.identify = .ok ⟨p.name, p.space, p.family⟩ ∧
    a.userInterfacePlan p.name = .ok p.userInterface ∧
    Plan.storageOf p.name p.space a.spec.objectStorage = .ok p.objectStorage ∧
    p.database = Plan.databaseOf r p.name p.space a.spec.database := by
  obtain ⟨⟨name, space, family⟩, hi, h⟩ := Except.bind_eq_ok.mp h
  obtain ⟨userInterface, hu, h⟩ := Except.bind_eq_ok.mp h
  obtain ⟨objectStorage, ho, h⟩ := Except.bind_eq_ok.mp h
  obtain rfl := Except.ok.inj h
  exact ⟨hi, hu, ho, rfl⟩

theorem plan_metadata (h : a.plan r = .ok p) :
    a.metadata.name = some p.name ∧ a.metadata.space = some p.space :=
  let h := identify_eq_ok.mp (plan_eq_ok h).1
  ⟨h.1.1, h.2.1.1⟩

theorem plan_database (h : a.plan r = .ok p) :
    ∃ custom, p.database.credentials = .database p.space p.name custom :=
  (plan_eq_ok h).2.2.2 ▸ Plan.databaseOf_credentials r p.name p.space a.spec.database

theorem plan_storage (h : a.plan r = .ok p) :
    ∃ custom, p.objectStorage.credentials = .storage p.space p.name custom :=
  Plan.storageOf_credentials (plan_eq_ok h).2.2.1

/-- The credentials of a plan are kept in the namespace of the application. -/
theorem plan_spaces (h : a.plan r = .ok p) : p.database.credentials.space = p.space ∧
    p.objectStorage.credentials.space = p.space := by
  obtain ⟨custom, hpassword⟩ := plan_database h
  obtain ⟨custom', hkeys⟩ := plan_storage h
  rw [hpassword, hkeys]
  exact ⟨CredentialReference.space_database .., CredentialReference.space_storage ..⟩

/-- The two credentials of a plan are of different kinds. -/
theorem plan_kinds (h : a.plan r = .ok p) :
    p.database.credentials.kind = .databasePassword ∧
      p.objectStorage.credentials.kind = .storageKeys := by
  obtain ⟨custom, hpassword⟩ := plan_database h
  obtain ⟨custom', hkeys⟩ := plan_storage h
  rw [hpassword, hkeys]
  exact ⟨CredentialReference.kind_database .., CredentialReference.kind_storage ..⟩

theorem plan_database_sound (h : a.plan r = .ok p) : p.database.credentials.Sound := by
  obtain ⟨custom, hc⟩ := plan_database h
  rw [hc]
  exact CredentialReference.database_sound p.space p.name custom

theorem plan_storage_sound (h : a.plan r = .ok p) : p.objectStorage.credentials.Sound := by
  obtain ⟨custom, hc⟩ := plan_storage h
  rw [hc]
  exact CredentialReference.storage_sound p.space p.name custom

end Application

end PipelinesOperator
