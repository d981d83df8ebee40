import PipelinesOperator.Credential.Store
import PipelinesOperator.Text.Character

/-!
# Establishing a credential

A credential is read from its secret.  If the secret does not exist and the operator answers
for it, fresh material is stored, unless somebody else stores theirs first: then theirs is
read back and used.  A user's secret that does not exist is a misconfiguration.

## Main definitions

* `CredentialReference.materialize`: what is there, or fresh material; never writes
* `CredentialReference.persist`: stores fresh material, or adopts what another stored
* `CredentialReference.ensure`: both, with at most one attempt to store
-/

namespace PipelinesOperator

/-- Why a resolution fails: by a mistake of the user's, or by the store. -/
inductive ResolutionError where
  | configuration (error : Misconfiguration)
  | store (fault : ClusterFault)
  deriving DecidableEq, Repr

namespace ResolutionError

/-- Whether trying again may help. -/
def isRetryable : ResolutionError → Bool
  | .configuration _ => false
  | .store _ => true

/-- The wording of an error. -/
def message : ResolutionError → String
  | .configuration error => "configuration error: " ++ error.message
  | .store fault => "secret store error: " ++ fault.message

end ResolutionError

/-- Some letters and digits. -/
def IsAlphanumeric (bytes : List UInt8) : Prop :=
  ∀ b ∈ bytes, Text.isAlphanumeric (Char.ofNat b.toNat) = true

instance (bytes : List UInt8) : Decidable (IsAlphanumeric bytes) :=
  List.decidableBAll _ bytes

/-- Fresh material for both credentials of an application: letters and digits in the right
number. -/
structure Material where
  password : List UInt8
  accessKey : List UInt8
  secretKey : List UInt8
  password_length : password.length = Names.passwordLength
  accessKey_length : accessKey.length = Names.accessKeyLength
  secretKey_length : secretKey.length = Names.secretKeyLength
  alphanumeric : IsAlphanumeric (password ++ accessKey ++ secretKey)

namespace Material

/-- Material of three pieces, if they have the right form. -/
def of? (password accessKey secretKey : List UInt8) : Option Material :=
  if h : password.length = Names.passwordLength ∧ accessKey.length = Names.accessKeyLength ∧
      secretKey.length = Names.secretKeyLength ∧
      IsAlphanumeric (password ++ accessKey ++ secretKey) then
    some ⟨password, accessKey, secretKey, h.1, h.2.1, h.2.2.1, h.2.2.2⟩
  else none

/-- The credential of a kind that is made of the material. -/
def credential (m : Material) : CredentialKind → Credential
  | .databasePassword => ⟨m.password, none⟩
  | .storageKeys => ⟨m.accessKey, some m.secretKey⟩

end Material

/-- What reading a secret gives. -/
inductive Materialized where
  /-- The credential that the secret holds. -/
  | existing (credential : Credential)
  /-- Fresh material that has still to be stored. -/
  | generated (credential : Credential)
  deriving DecidableEq, Repr

/-- Where a credential in use comes from. -/
inductive Origin where
  /-- Its secret was there. -/
  | existing
  /-- This pass made it and stored it. -/
  | created
  /-- This pass made one, but another writer had stored theirs. -/
  | adopted
  deriving DecidableEq, Repr

namespace CredentialReference

/-- A misconfiguration, as an error of a resolution. -/
def misconfigured {α : Type} (r : Except Misconfiguration α) : Except ResolutionError α :=
  r.mapError .configuration

/-- Reads the credential, or takes fresh material if the operator answers for a secret that
does not exist. -/
def materialize (r : CredentialReference) (fresh : Material) :
    StoreDialogue (Except ResolutionError Materialized) :=
  .ask (.get r.space r.name) fun
    | .error fault => .done (.error (.store fault))
    | .ok (some fields) => .done ((misconfigured (r.extract fields)).map .existing)
    | .ok none =>
      match r.ownership with
      | .user => .done (.error (.configuration (.secretNotFound r.name)))
      | .operator =>
        .tell (.generatedCredential r.name r.space)
          (.done (.ok (.generated (fresh.credential r.kind))))

/-- Reads back what another writer stored. -/
def adopt (r : CredentialReference) :
    StoreDialogue (Except ResolutionError (Credential × Origin)) :=
  .ask (.get r.space r.name) fun
    | .error fault => .done (.error (.store fault))
    -- Gone again since it was in the way: nothing is made a second time.
    | .ok none => .done (.error (.configuration (.secretNotFound r.name)))
    | .ok (some fields) => .done ((misconfigured (r.extract fields)).map fun c => (c, .adopted))

/-- Stores fresh material, or adopts what another writer stored first. -/
def persist (r : CredentialReference) (generated : Credential) :
    StoreDialogue (Except ResolutionError (Credential × Origin)) :=
  .ask (.create r.space r.name (r.toFields generated)) fun
    | .error fault => .done (.error (.store fault))
    | .ok .created =>
      .tell (.createdSecret r.name r.space) (.done (.ok (generated, .created)))
    | .ok .alreadyExists => .tell (.adoptedSecret r.name r.space) r.adopt

/-- Reads the credential or makes it. -/
def ensure (r : CredentialReference) (fresh : Material) :
    StoreDialogue (Except ResolutionError (Credential × Origin)) :=
  (r.materialize fresh).thenTry fun
    | .existing credential => .done (.ok (credential, .existing))
    | .generated credential => r.persist credential

end CredentialReference

end PipelinesOperator
