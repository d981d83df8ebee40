import PipelinesOperator.Application.Metadata
import PipelinesOperator.Application.Status

/-!
# Applications

An application is what a user asks for: a deployment of pipelines with its backing services.
This is the hub form, in which the source of the database and that of the object storage are
decided: each is external or managed, and no longer possibly both.

A block that is absent leaves every decision about that component to the operator.
-/

namespace PipelinesOperator

/-- The blocks that stand alike on the wire and on the hub. -/
structure Components (face : Face := .hub) where
  apiServer : Option (ApiServer face) := none
  persistenceAgent : Option (PersistenceAgent face) := none
  scheduledWorkflow : Option (ScheduledWorkflow face) := none
  userInterface : Option (UserInterface face) := none
  mlmd : Option (Mlmd face) := none
  crdViewer : Option (ImageOnly face) := none
  visualizationServer : Option (ImageOnly face) := none
  workflowController : Option (ImageOnly face) := none
  dspVersion : String
  engineDriver : String
  deriving DecidableEq, Repr

/-- Where the database comes from.  A managed one without a block is left to the operator. -/
inductive DatabaseSource where
  | external (database : ExternalDatabase)
  | managed (block : Option MariaDb)
  deriving DecidableEq, Repr

/-- The database of an application. -/
structure Database where
  source : DatabaseSource
  disableHealthCheck : Bool
  deriving DecidableEq, Repr

/-- Where the object storage comes from. -/
inductive StorageSource where
  | external (storage : ExternalStorage)
  | managed (block : Minio)
  deriving DecidableEq, Repr

/-- The object storage of an application, whose source a user may have forgotten. -/
structure ObjectStorage where
  source : Option StorageSource
  disableHealthCheck : Bool
  deriving DecidableEq, Repr

/-- What a user asks for. -/
structure Spec where
  components : Components
  database : Database
  objectStorage : ObjectStorage
  deriving DecidableEq, Repr

/-- An application: its metadata, what is asked for, and its status if it has one. -/
structure Application where
  metadata : Metadata
  spec : Spec
  status : Option Status
  deriving Repr

namespace DatabaseSource

/-- The shape of a source of the database. -/
def shape : Shape DatabaseSource :=
  .view (.either "external" (ExternalDatabase.shape .hub) "managed"
      (.optional (MariaDb.shape .hub)))
    (fun | .inl d => .external d | .inr b => .managed b)
    (fun | .external d => .inl d | .managed b => .inr b)
    (by intro a; cases a <;> rfl)

end DatabaseSource

/-- The shape of a database. -/
def Database.shape : Shape Database :=
  .struct "Database"
    (.cons (.required "source" none) DatabaseSource.shape <|
     .cons (.required "disable_health_check" none) .flag .nil)
    (fun (a, b, _) => ⟨a, b⟩) (fun d => (d.source, d.disableHealthCheck, ()))

namespace StorageSource

/-- The shape of a source of object storage. -/
def shape : Shape StorageSource :=
  .view (.either "external" (ExternalStorage.shape .hub) "managed" (Minio.shape .hub))
    (fun | .inl s => .external s | .inr b => .managed b)
    (fun | .external s => .inl s | .managed b => .inr b)
    (by intro a; cases a <;> rfl)

end StorageSource

/-- The shape of object storage. -/
def ObjectStorage.shape : Shape ObjectStorage :=
  .struct "ObjectStorage"
    (.cons (.nullable "source" none) (.optional StorageSource.shape) <|
     .cons (.required "disable_health_check" none) .flag .nil)
    (fun (a, b, _) => ⟨a, b⟩) (fun s => (s.source, s.disableHealthCheck, ()))

/-- The shape of a spec. -/
def Spec.shape : Shape Spec :=
  .struct "DspaSpec"
    (.cons (.nullable "api_server" none) (.optional (ApiServer.shape .hub)) <|
     .cons (.nullable "persistence_agent" none) (.optional (PersistenceAgent.shape .hub)) <|
     .cons (.nullable "scheduled_workflow" none) (.optional (ScheduledWorkflow.shape .hub)) <|
     .cons (.required "database" none) Database.shape <|
     .cons (.nullable "ml_pipeline_ui" none) (.optional (UserInterface.shape .hub)) <|
     .cons (.required "object_storage" none) ObjectStorage.shape <|
     .cons (.nullable "mlmd" none) (.optional (Mlmd.shape .hub)) <|
     .cons (.nullable "crd_viewer" none) (.optional (ImageOnly.shape .hub)) <|
     .cons (.nullable "visualization_server" none) (.optional (ImageOnly.shape .hub)) <|
     .cons (.nullable "workflow_controller" none) (.optional (ImageOnly.shape .hub)) <|
     .cons (.required "dsp_version" none) .text <|
     .cons (.required "engine_driver" none) .text .nil)
    (fun (a, b, c, d, e, f, g, h, i, j, k, l, _) => ⟨⟨a, b, c, e, g, h, i, j, k, l⟩, d, f⟩)
    (fun s => (s.components.apiServer, s.components.persistenceAgent,
      s.components.scheduledWorkflow, s.database, s.components.userInterface, s.objectStorage,
      s.components.mlmd, s.components.crdViewer, s.components.visualizationServer,
      s.components.workflowController, s.components.dspVersion, s.components.engineDriver, ()))

/-- The shape of an application. -/
def Application.shape : Shape Application :=
  .struct "DataSciencePipelinesApplication"
    (.cons (.required "metadata" none) Metadata.shape <|
     .cons (.required "spec" none) Spec.shape <|
     .cons (.nullable "status" none) (.optional (Status.shape .hub)) .nil)
    (fun (a, b, c, _) => ⟨a, b, c⟩) (fun a => (a.metadata, a.spec, a.status, ()))

end PipelinesOperator
