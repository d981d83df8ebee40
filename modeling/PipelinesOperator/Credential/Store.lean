import PipelinesOperator.Cluster.Fault
import PipelinesOperator.Credential.Basic
import PipelinesOperator.Dialogue

/-!
# The secret store

Two things can be asked of a secret store: the fields of a secret, and to make a secret.  A
secret that exists is left as it is, and whoever tried to make it is told so.  Nothing here
changes or removes a secret.

## Main definitions

* `StoreCall`, `StoreCall.Answer`: the questions and their answers
* `SecretStore.answer`: a store that never fails
-/

namespace PipelinesOperator

/-- What became of the attempt to make a secret. -/
inductive CreateOutcome where
  | created
  | alreadyExists
  deriving DecidableEq, Repr

/-- A question to a secret store. -/
inductive StoreCall where
  | get (space name : String)
  | create (space name : String) (fields : SecretFields)
  deriving DecidableEq, Repr

/-- What answers a question. -/
abbrev StoreCall.Answer : StoreCall → Type
  | .get .. => Except ClusterFault (Option SecretFields)
  | .create .. => Except ClusterFault CreateOutcome

/-- A dialogue with a secret store. -/
abbrev StoreDialogue := Dialogue StoreCall StoreCall.Answer

/-- Secrets by namespace and name. -/
structure SecretStore where
  secrets : List ((String × String) × SecretFields)
  deriving Repr

namespace SecretStore

/-- The fields of a secret. -/
def get? (s : SecretStore) (space name : String) : Option SecretFields :=
  s.secrets.lookup (space, name)

/-- The store with a secret set. -/
def put (s : SecretStore) (space name : String) (fields : SecretFields) : SecretStore :=
  if (s.get? space name).isSome then
    ⟨s.secrets.map fun e => if e.1 = (space, name) then (e.1, fields) else e⟩
  else ⟨s.secrets ++ [((space, name), fields)]⟩

/-- The store without a secret. -/
def delete (s : SecretStore) (space name : String) : SecretStore :=
  ⟨s.secrets.filter fun e => e.1 ≠ (space, name)⟩

/-- The answer of a store that does not fail, and the store behind it. -/
def answer : (call : StoreCall) → SecretStore → call.Answer × SecretStore
  | .get space name, s => (.ok (s.get? space name), s)
  | .create space name fields, s =>
    if (s.get? space name).isSome then (.ok .alreadyExists, s)
    else (.ok .created, s.put space name fields)

end SecretStore

end PipelinesOperator
