import PipelinesOperator.Application.Conversion

/-!
# Manifests

A manifest is an application as users write it, in the version of the resource that the
cluster serves.  It may name both an external and a managed database, and both kinds of
object storage; in the conversion to an application the external one wins.
-/

namespace PipelinesOperator

namespace Manifest

/-- The group of the resource. -/
def group : String := "datasciencepipelinesapplications.opendatahub.io"

/-- The version of the resource. -/
def version : String := "v1alpha1"

/-- The group and version, as objects carry them. -/
def apiVersion : String := group ++ "/" ++ version

/-- The kind of the resource. -/
def kind : String := "DataSciencePipelinesApplication"

/-- The name of the resource in requests. -/
def plural : String := "datasciencepipelinesapplications"

/-- The database, as a user may describe it. -/
structure Database where
  managed : Option (MariaDb .wire) := none
  external : Option (ExternalDatabase .wire) := none
  disableHealthCheck : Bool := false
  deriving DecidableEq, Repr

/-- The object storage, as a user may describe it. -/
structure ObjectStorage where
  managed : Option (Minio .wire) := none
  external : Option (ExternalStorage .wire) := none
  disableHealthCheck : Bool := false
  deriving DecidableEq, Repr

/-- What a user asks for. -/
structure Spec where
  components : Components .wire
  database : Option Database
  objectStorage : ObjectStorage
  deriving DecidableEq, Repr

/-- The shape of a database. -/
def Database.shape : Shape Database :=
  .struct "Database"
    (.cons (.optional "mariaDB" none) (.optional (MariaDb.shape .wire)) <|
     .cons (.optional "externalDB" none) (.optional (ExternalDatabase.shape .wire)) <|
     .cons (.defaulted "disableHealthCheck" false none) .flag .nil)
    (fun (a, b, c, _) => ⟨a, b, c⟩) (fun d => (d.managed, d.external, d.disableHealthCheck, ()))

/-- The shape of object storage. -/
def ObjectStorage.shape : Shape ObjectStorage :=
  .struct "ObjectStorage"
    (.cons (.optional "minio" none) (.optional (Minio.shape .wire)) <|
     .cons (.optional "externalStorage" none) (.optional (ExternalStorage.shape .wire)) <|
     .cons (.defaulted "disableHealthCheck" false none) .flag .nil)
    (fun (a, b, c, _) => ⟨a, b, c⟩) (fun s => (s.managed, s.external, s.disableHealthCheck, ()))

/-- The shape of a spec. -/
def Spec.shape : Shape Spec :=
  .struct "DspaSpec"
    (.cons (.optional "apiServer" (some "DS Pipelines API Server configuration."))
      (.optional (ApiServer.shape .wire)) <|
     .cons (.optional "persistenceAgent" (some "DS Pipelines PersistenceAgent configuration."))
      (.optional (PersistenceAgent.shape .wire)) <|
     .cons (.optional "scheduledWorkflow" (some "DS Pipelines Scheduled Workflow configuration."))
      (.optional (ScheduledWorkflow.shape .wire)) <|
     .cons (.optional "database"
      (some ("Database used for pipelines metadata tracking. Specify either the default\n" ++
        "MariaDB deployment, or an external SQL database."))) (.optional Database.shape) <|
     .cons (.optional "mlpipelineUI" (some ("Deploy the KFP UI. Unsupported, primarily used for " ++
        "exploration and development."))) (.optional (UserInterface.shape .wire)) <|
     .cons (.required "objectStorage"
      (some ("Object store used for artifact passing and storage. Specify either external\n" ++
        "storage (e.g. AWS S3), or the Minio deployment."))) ObjectStorage.shape <|
     .cons (.optional "mlmd" (some "ML Metadata configuration.")) (.optional (Mlmd.shape .wire)) <|
     .cons (.optional "crdviewer" none) (.optional (ImageOnly.shape .wire)) <|
     .cons (.optional "visualizationServer" none) (.optional (ImageOnly.shape .wire)) <|
     .cons (.optional "workflowController" (some "Argo Workflow Controller configuration."))
      (.optional (ImageOnly.shape .wire)) <|
     .cons (.defaulted "dspVersion" "v1" (some "Pipelines version, `v1` or `v2`.")) .text <|
     .cons (.defaulted "engineDriver" "argo"
      (some "Workflow engine used by pipelines v2, `argo` or `tekton`.")) .text .nil)
    (fun (a, b, c, d, e, f, g, h, i, j, k, l, _) => ⟨⟨a, b, c, e, g, h, i, j, k, l⟩, d, f⟩)
    (fun s => (s.components.apiServer, s.components.persistenceAgent,
      s.components.scheduledWorkflow, s.database, s.components.userInterface, s.objectStorage,
      s.components.mlmd, s.components.crdViewer, s.components.visualizationServer,
      s.components.workflowController, s.components.dspVersion, s.components.engineDriver, ()))

end Manifest

/-- An application as a user writes it. -/
structure Manifest where
  metadata : Metadata
  spec : Manifest.Spec
  status : Option (Status .wire)
  deriving Repr

namespace Manifest

/-- The member that holds the status. -/
def statusField : Field (Option (Status .wire)) := ⟨"status", some none, none, Option.isNone, none⟩

/-- The fields of a manifest. -/
def fields : Fields (Metadata × Spec × Option (Status .wire) × Unit) :=
  .cons (.required "metadata" none) Metadata.shape <|
  .cons (.required "spec" none) Spec.shape <|
  .cons statusField (.optional (Status.shape .wire)) .nil

/-- The shape of a manifest. -/
def shape : Shape Manifest :=
  .struct kind fields (fun (a, b, c, _) => ⟨a, b, c⟩) (fun m => (m.metadata, m.spec, m.status, ()))

/-- A manifest as a document, with its version and kind. -/
def write (m : Manifest) : Json :=
  .obj (("apiVersion", .str apiVersion) :: ("kind", .str kind) :: (shape.write m).members)

/-- The database of an application: an external one wins over a managed one. -/
def Database.resolve (d : Database) : PipelinesOperator.Database :=
  ⟨match d.external with
    | some external => .external external.toHub
    | none => .managed (d.managed.map MariaDb.toHub), d.disableHealthCheck⟩

/-- The object storage of an application: an external one wins over a managed one. -/
def ObjectStorage.resolve (s : ObjectStorage) : PipelinesOperator.ObjectStorage :=
  ⟨match s.external with
    | some external => some (.external external.toHub)
    | none => s.managed.map fun block => .managed block.toHub, s.disableHealthCheck⟩

/-- The application of a manifest.  A database that is not described at all is managed and
left to the operator. -/
def toApplication (m : Manifest) : Application where
  metadata := m.metadata
  spec :=
    { components := m.spec.components.toHub
      database := (m.spec.database.getD {}).resolve
      objectStorage := m.spec.objectStorage.resolve }
  status := m.status.map Status.toHub

end Manifest

end PipelinesOperator
