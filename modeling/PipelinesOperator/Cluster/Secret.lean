import PipelinesOperator.Application.Metadata
import PipelinesOperator.Cluster.Reply
import PipelinesOperator.Credential.Store

/-!
# Secrets on the cluster

The secret store of the operator is the API server.  A secret is fetched by its name, and
made by sending the whole object; both answers have to read as a secret, and the server says
by its own reasons that a secret does not exist or exists already.

## Main definitions

* `Secret`, `Secret.shape`: the object that the server keeps
* `StoreCall.perform`: a call of the secret store as a dialogue with the server
-/

namespace PipelinesOperator

/-- A secret as the server keeps it. -/
structure Secret where
  metadata : Metadata
  data : Option SecretFields
  immutable : Option Bool := none
  stringData : Option (Table String) := none
  type : Option String := none
  deriving Repr

namespace Secret

/-- The shape of a secret. -/
def shape : Shape Secret :=
  .struct "Secret"
    (.cons (.defaulted "apiVersion" () none) (.constant "v1") <|
     .cons (.optional "data" none) (.optional (.table .bytes)) <|
     .cons (.optional "immutable" none) (.optional .flag) <|
     .cons (.defaulted "kind" () none) (.constant "Secret") <|
     .cons (.defaulted "metadata" {} none) (.orNull {} Metadata.shape) <|
     .cons (.optional "stringData" none) (.optional (.table .text)) <|
     .cons (.optional "type" none) (.optional .text) .nil)
    (fun (_, a, b, _, c, d, e, _) => ⟨c, a, b, d, e⟩)
    (fun s => ((), s.data, s.immutable, (), s.metadata, s.stringData, s.type, ()))
    none .lenient

/-- The fields that a secret holds. -/
def fields (s : Secret) : SecretFields := s.data.getD ∅

/-- The secret that the operator makes for an owner. -/
def owned (owner : OwnerReference) (space name : String) (fields : SecretFields) : Secret where
  metadata :=
    { labels := some ((∅ : Table String).insert Names.managedByLabel Names.operator)
      name := some name
      space := some space
      ownerReferences := some [owner] }
  data := some fields
  type := some "Opaque"

/-- The target of the secrets of a namespace. -/
def target (space : String) : String := "/api/v1/namespaces/" ++ space ++ "/secrets"

/-- The request that fetches a secret. -/
def getRequest (space name : String) : Except ClusterFault Request :=
  if name = "" then .error .emptyName
  else Request.of .get (target space ++ "/" ++ name) none

/-- The request that makes a secret. -/
def createRequest (space : String) (s : Secret) : Except ClusterFault Request :=
  Request.of .post (target space ++ "?") (some ⟨"application/json", shape.write s⟩)

/-- What the reply to a request for a secret says. -/
def found (reply : Reply) : Except ClusterFault (Option SecretFields) :=
  match reply.read shape with
  | .ok s => .ok (some s.fields)
  | .error (.api e) => if e.isNotFound then .ok none else .error (.api e)
  | .error f => .error f

/-- What the reply to the making of a secret says. -/
def made (reply : Reply) : Except ClusterFault CreateOutcome :=
  match reply.read shape with
  | .ok _ => .ok .created
  | .error (.api e) => if e.isConflict then .ok .alreadyExists else .error (.api e)
  | .error f => .error f

end Secret

/-- Sends a request, if it could be made, and goes on with the reply. -/
def Request.send {α : Type} (request : Except ClusterFault Request)
    (next : Reply → Except ClusterFault α) : ClusterDialogue (Except ClusterFault α) :=
  match request with
  | .ok request => .ask request fun reply => .done (next reply)
  | .error f => .done (.error f)

/-- A call of the secret store, for secrets of one owner. -/
def StoreCall.perform (owner : OwnerReference) : (call : StoreCall) → ClusterDialogue call.Answer
  | .get space name => Request.send (Secret.getRequest space name) Secret.found
  | .create space name fields =>
    Request.send (Secret.createRequest space (.owned owner space name fields)) Secret.made

end PipelinesOperator
