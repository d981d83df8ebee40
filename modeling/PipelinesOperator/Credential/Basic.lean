import PipelinesOperator.Application.Component
import PipelinesOperator.Application.Names
import PipelinesOperator.Misconfiguration

/-!
# Credentials and the secrets they are kept in

A credential is one or two pieces of secret material: a database password, or an access key
and its secret.  A reference says in which secret a credential is kept and under which
fields, and who answers for the secret: the user, who has to make it, or the operator, who
makes it when it is not there.

## Main definitions

* `CredentialReference.toFields`: the fields that a secret gets
* `CredentialReference.extract`: the credential that a secret holds
-/

namespace PipelinesOperator

/-- Secret material. -/
structure Credential where
  primary : List UInt8
  secondary : Option (List UInt8)
  deriving DecidableEq, Repr

namespace Credential

/-- The base64 of the first piece. -/
def primaryText (c : Credential) : String := String.ofList (Base64.encode c.primary)

/-- The base64 of the second piece, empty if there is none. -/
def secondaryText (c : Credential) : String :=
  String.ofList ((c.secondary.map Base64.encode).getD [])

/-- What a log shows of a credential: how many pieces it has, and nothing of them. -/
def redacted (c : Credential) : String :=
  let secondary := match c.secondary with
    | none => "None"
    | some _ => "Some(\"<redacted>\")"
  "Credential \x7b primary: \"<redacted>\", secondary: " ++ secondary ++ " \x7d"

end Credential

/-- Who answers for a secret. -/
inductive Ownership where
  | user
  | operator
  deriving DecidableEq, Repr

/-- What a credential is for. -/
inductive CredentialKind where
  | databasePassword
  | storageKeys
  deriving DecidableEq, Repr

/-- The raw fields of a secret. -/
abbrev SecretFields := Table (List UInt8)

/-- Where a credential is kept. -/
structure CredentialReference where
  space : String
  name : String
  primaryKey : String
  secondaryKey : Option String
  ownership : Ownership
  kind : CredentialKind
  deriving DecidableEq, Repr

namespace CredentialReference

/-- Where the password of a database is kept: in the user's secret if there is one, else in
the operator's. -/
def database (space application : String) (custom : Option SecretKey) : CredentialReference :=
  match custom with
  | some s => ⟨space, s.name, s.key, none, .user, .databasePassword⟩
  | none =>
    ⟨space, Names.databaseSecret application, Names.passwordKey, none, .operator,
      .databasePassword⟩

/-- Where the keys of object storage are kept. -/
def storage (space application : String) (custom : Option SecretKeyPair) :
    CredentialReference :=
  match custom with
  | some s => ⟨space, s.secretName, s.accessKey, some s.secretKey, .user, .storageKeys⟩
  | none =>
    ⟨space, Names.storageSecret application, Names.accessKey, some Names.secretKey, .operator,
      .storageKeys⟩

/-- The fields of a secret that holds a credential. -/
def toFields (r : CredentialReference) (c : Credential) : SecretFields :=
  let first := (∅ : SecretFields).insert r.primaryKey c.primary
  match r.secondaryKey, c.secondary with
  | some key, some value => first.insert key value
  | _, _ => first

/-- The field of a secret, which has to be there and not be empty. -/
def field (r : CredentialReference) (fields : SecretFields) (key : String) :
    Except Misconfiguration (List UInt8) :=
  match fields.get? key with
  | some (b :: bs) => .ok (b :: bs)
  | _ => .error (.emptySecretField r.name key)

/-- The credential that a secret holds. -/
def extract (r : CredentialReference) (fields : SecretFields) :
    Except Misconfiguration Credential := do
  let primary ← r.field fields r.primaryKey
  match r.secondaryKey with
  | none => .ok ⟨primary, none⟩
  | some key => do
    let secondary ← r.field fields key
    .ok ⟨primary, some secondary⟩

/-- How ownership is spelled. -/
def ownershipShape : Shape Ownership :=
  .word (fun | .user => "UserOwned" | .operator => "OperatorOwned")
    (fun s => if s = "UserOwned" then some .user
      else if s = "OperatorOwned" then some .operator else none)
    (by intro a; cases a <;> rfl)

/-- How the kind of a credential is spelled. -/
def kindShape : Shape CredentialKind :=
  .word (fun | .databasePassword => "DatabasePassword" | .storageKeys => "ObjectStorageKeys")
    (fun s => if s = "DatabasePassword" then some .databasePassword
      else if s = "ObjectStorageKeys" then some .storageKeys else none)
    (by intro a; cases a <;> rfl)

/-- The shape of a reference. -/
def shape : Shape CredentialReference :=
  .struct "CredentialReference"
    (.cons (.required "namespace" none) .text <|
     .cons (.required "name" none) .text <|
     .cons (.required "primaryKey" none) .text <|
     .cons (.nullable "secondaryKey" none) (.optional .text) <|
     .cons (.required "ownership" none) ownershipShape <|
     .cons (.required "kind" none) kindShape .nil)
    (fun (a, b, c, d, e, f, _) => ⟨a, b, c, d, e, f⟩)
    (fun r => (r.space, r.name, r.primaryKey, r.secondaryKey, r.ownership, r.kind, ()))

end CredentialReference

end PipelinesOperator
