import PipelinesOperator.Application.Manifest
import PipelinesOperator.Cluster.Secret
import PipelinesOperator.Reconcile.Verdict
import PipelinesOperator.Resolution.Basic

/-!
# Reconciling an application

The operator reconciles an application by resolving it against the secrets on the cluster
and writing the verdict into its status.  A misconfiguration is a verdict like any other,
since only the user can mend it; a fault of the cluster is an error, and the pass is tried
again after a while.

## Main definitions

* `Manifest.reconcile`: one pass, with the seconds until the next
* `Manifest.attend`: one pass with its errors reported
-/

namespace PipelinesOperator

/-- Why a pass fails. -/
inductive ReconcileError where
  /-- The metadata lacks what the pass needs. -/
  | missingKey (message : String)
  /-- The secret store fails. -/
  | store (fault : ClusterFault)
  /-- The status cannot be written. -/
  | status (fault : ClusterFault)
  deriving DecidableEq, Repr

namespace ReconcileError

/-- The wording of an error. -/
def message : ReconcileError → String
  | .missingKey message => "missing object key: " ++ message
  | .store fault => (ResolutionError.store fault).message
  | .status fault => "kubernetes api error: " ++ fault.message

/-- The error of an application without a namespace. -/
def withoutNamespace : ReconcileError :=
  .missingKey ("Expected " ++ Manifest.kind ++ " to be namespaced via metadata.namespace")

/-- The error of an application that cannot own anything. -/
def withoutOwner : ReconcileError :=
  .missingKey ("Expected " ++ Manifest.kind ++ " to have an owner reference")

end ReconcileError

namespace Manifest

/-- The reference to an application from what it owns. -/
def ownerReference? (m : Manifest) : Option OwnerReference := do
  let name ← m.metadata.name
  let uid ← m.metadata.uid
  some ⟨apiVersion, none, some true, kind, name, uid⟩

/-- The request that merges a status into that of an application. -/
def statusRequest (space name : String) (status : Status) : Except ClusterFault Request :=
  if name = "" then .error .emptyName
  else
    Request.of .patch
      ("/apis/" ++ apiVersion ++ "/namespaces/" ++ space ++ "/" ++ plural ++ "/" ++ name ++
        "/status?&fieldManager=" ++ Names.fieldManager)
      (some ⟨"application/merge-patch+json", .obj [("status", (Status.shape .hub).write status)]⟩)

/-- Writes the status that a verdict calls for, if it calls for one. -/
def record (m : Manifest) (space : String) (now : Timestamp) (v : Verdict) :
    ClusterDialogue (Except ReconcileError Unit) :=
  -- A status that tells the verdict already is left alone, and no request is sent.
  match v.nextStatus m.toApplication.status now with
  | none => .done (.ok ())
  | some status =>
    let name := m.metadata.name.getD ""
    .tell (.updatingStatus name status.phase) <|
      (Request.send (statusRequest space name status) fun reply =>
        (reply.read shape).map fun _ => ()).bind fun r => .done (r.mapError .status)

/-- The verdict of a resolution, with the events that announce it; a fault of the store is
none. -/
def judge (name space : String) :
    Except ResolutionError Resolution → Except ReconcileError (Verdict × List Event)
  | .ok r =>
    let hash := r.parameters.hash
    .ok (.resolved hash,
      r.parameters.createdSecrets.map (.secretCreated name space) ++
        [.resolvedParameters name space hash])
  -- A mistake of the user's is told in the status like any other verdict.
  | .error (.configuration e) =>
    .ok (.invalid e.message, [.resolutionFailed name space e.message])
  | .error (.store fault) => .error (.store fault)

/-- One pass over an application at a time, with fresh material at hand: the seconds until
the next pass. -/
def reconcile (r : Registry) (intervals : Intervals) (fresh : Material) (now : Timestamp)
    (m : Manifest) : ClusterDialogue (Except ReconcileError UInt64) :=
  match m.metadata.space with
  | none => .done (.error .withoutNamespace)
  | some space =>
    match m.ownerReference? with
    | none => .done (.error .withoutOwner)
    | some owner =>
      ((m.toApplication.resolve r fresh).expand (StoreCall.perform owner)).bind fun resolution =>
        match judge owner.name space resolution with
        | .error e => .done (.error e)
        | .ok (v, events) =>
          .tellAll events <|
            (m.record space now v).thenTry fun _ => .done (.ok (v.requeue intervals))

/-- One pass, with an error reported as an event: the outcome and the seconds until the
next pass. -/
def attend (r : Registry) (intervals : Intervals) (fresh : Material) (now : Timestamp)
    (m : Manifest) : ClusterDialogue (Except ReconcileError Unit × UInt64) :=
  (m.reconcile r intervals fresh now).bind fun
    | .ok seconds => .done (.ok (), seconds)
    | .error e => .tell (.failed e.message) (.done (.error e, intervals.errorRequeue))

end Manifest

end PipelinesOperator
