import PipelinesOperator.Application.Manifest
import PipelinesOperator.Cluster.Secret
import PipelinesOperator.Json.MergePatch

/-!
# An API server that keeps its word

This server holds secrets and manifests.  It knows three requests: to fetch a secret, to
make one, which fails if there is one of that name, and to merge a status into that of a
manifest.  Whatever else is asked of it does not exist.

## Main definitions

* `Server.answer`: the reply to a request, and the server behind it
-/

namespace PipelinesOperator

/-- What a server holds, by namespace and name. -/
structure Server where
  /-- The secrets; one may have no data at all. -/
  secrets : List ((String × String) × Option SecretFields) := []
  /-- The manifests, as they were last given. -/
  manifests : List ((String × String) × Json) := []
  /-- The statuses, as they were last written. -/
  statuses : List ((String × String) × Json) := []

namespace Server

/-- An association list with one key set. -/
def assign {α β : Type} [DecidableEq α] (key : α) (value : β) (entries : List (α × β)) :
    List (α × β) :=
  if (entries.lookup key).isSome then
    entries.map fun e => if e.1 = key then (e.1, value) else e
  else entries ++ [(key, value)]

/-- The server with a secret set. -/
def putSecret (s : Server) (space name : String) (data : Option SecretFields) : Server :=
  { s with secrets := assign (space, name) data s.secrets }

/-- The server without a secret. -/
def deleteSecret (s : Server) (space name : String) : Server :=
  { s with secrets := s.secrets.filter fun e => e.1 ≠ (space, name) }

/-- The server with a manifest set. -/
def putManifest (s : Server) (space name : String) (manifest : Json) : Server :=
  { s with manifests := assign (space, name) manifest s.manifests }

/-- The status that was last written for a manifest. -/
def status? (s : Server) (space name : String) : Option Json := s.statuses.lookup (space, name)

/-- A response that carries an object. -/
def object (code : UInt16) (j : Json) : Reply := .response code j.canonicalText

/-- A response that reports an error. -/
def error (code : UInt16) (reason message : String) : Reply :=
  object code (.obj [("apiVersion", .str "v1"), ("kind", .str "Status"), ("metadata", .obj []),
    ("status", .str "Failure"), ("message", .str message), ("reason", .str reason),
    ("code", .ofNat code.toNat)])

/-- The response to a request that the server does not know. -/
def unknown : Reply := error 404 "NotFound" "the server could not find the requested resource"

/-- A secret as the server shows it. -/
def shown (space name : String) (data : Option SecretFields) : Json :=
  Secret.shape.write
    { metadata := { name := some name, space := some space }, data, type := some "Opaque" }

/-- Fetches a secret. -/
def getSecret (s : Server) (space name : String) : Reply :=
  match s.secrets.lookup (space, name) with
  | some data => object 200 (shown space name data)
  | none => error 404 "NotFound" ("secrets \"" ++ name ++ "\" not found")

/-- Makes a secret, unless there is one of its name. -/
def createSecret (s : Server) (space : String) (body : Json) : Reply × Server :=
  match Secret.shape.ofJson body with
  | .error f => (error 400 "BadRequest" f.message, s)
  | .ok secret =>
    let name := secret.metadata.name.getD ""
    -- Of two who make a secret the first one wins, and the second hears that it is taken.
    match s.secrets.lookup (space, name) with
    | some _ => (error 409 "AlreadyExists" ("secrets \"" ++ name ++ "\" already exists"), s)
    | none => (object 201 body, s.putSecret space name secret.data)

/-- Merges a status into that of a manifest. -/
def patchStatus (s : Server) (space name : String) (patch : Json) : Reply × Server :=
  match s.manifests.lookup (space, name) with
  | none =>
    (error 404 "NotFound" (Manifest.plural ++ " \"" ++ name ++ "\" not found"), s)
  | some manifest =>
    -- The patch is merged into the status alone; the rest of the manifest is not its business.
    let old : Json := .obj [("status", (s.status? space name).getD .null)]
    let status := ((old.mergePatch patch).get? "status").getD .null
    (object 200 (.obj (manifest.members ++ [("status", status)])),
      { s with statuses := assign (space, name) status s.statuses })

/-- The reply to a request, and the server behind it. -/
def answer (request : Request) (s : Server) : Reply × Server :=
  let body := (request.body.map Body.content).getD .null
  match request.method, request.target.segments with
  | .get, ["", "api", "v1", "namespaces", space, "secrets", name] => (s.getSecret space name, s)
  | .post, ["", "api", "v1", "namespaces", space, "secrets"] => s.createSecret space body
  | .patch, ["", "apis", group, version, "namespaces", space, plural, name, "status"] =>
    if group = Manifest.group ∧ version = Manifest.version ∧ plural = Manifest.plural then
      s.patchStatus space name body
    else (unknown, s)
  | _, _ => (unknown, s)

end Server

end PipelinesOperator
