import PipelinesOperator.Resolution.Plan

/-!
# The fields that a user sets

What a user sets reaches the parameters in one place and as it is.  The fields of all blocks are
listed here, each with what it takes, with the block in which it is set and with the slot of the
parameters that it decides.  References to secrets are no such fields: they decide where a
credential is kept.

## Main definitions

* `FieldKind`: what a field takes
* `ApiServer.Setting` and its like: the fields of a block
* `Application.Setting`: the fields of all blocks
* `put`: a block or an application with a field set
* `write`: the parameters with the slot of a field replaced
-/

namespace PipelinesOperator

/-- What a field takes. -/
inductive FieldKind where
  | flag
  | text
  | quantity
  | number
  | resources
  | script

/-- The values that a field takes. -/
abbrev FieldKind.Value : FieldKind → Type
  | .flag => Bool
  | .text => String
  | .quantity => Quantity
  | .number => Int32
  | .resources => Requirements
  | .script => ScriptConfigMap

variable {k : FieldKind}

/-! ## The fields of the blocks

A field of a block is put there; `none` stands for the value that it has in an empty block.  The
slot that it decides is written in the parameters. -/

/-- The fields of an API server block. -/
inductive ApiServer.Setting : FieldKind → Type where
  | deploy : Setting .flag
  | image : Setting .text
  | applyTektonCustomResource : Setting .flag
  | archiveLogs : Setting .flag
  | artifactImage : Setting .text
  | cacheImage : Setting .text
  | moveResultsImage : Setting .text
  | artifactScriptConfigMap : Setting .script
  | injectDefaultScript : Setting .flag
  | stripEof : Setting .flag
  | terminateStatus : Setting .text
  | trackArtifacts : Setting .flag
  | dbConfigConMaxLifetimeSec : Setting .number
  | collectMetrics : Setting .flag
  | enableRoute : Setting .flag
  | enableSamplePipeline : Setting .flag
  | autoUpdatePipelineDefaultVersion : Setting .flag
  | resources : Setting .resources

namespace ApiServer.Setting

/-- The block with a field set. -/
def put : Setting k → Option k.Value → ApiServer → ApiServer
  | .deploy, v, s => { s with deploy := v.getD false }
  | .image, v, s => { s with image := v }
  | .applyTektonCustomResource, v, s => { s with applyTektonCustomResource := v }
  | .archiveLogs, v, s => { s with archiveLogs := v }
  | .artifactImage, v, s => { s with artifactImage := v }
  | .cacheImage, v, s => { s with cacheImage := v }
  | .moveResultsImage, v, s => { s with moveResultsImage := v }
  | .artifactScriptConfigMap, v, s => { s with artifactScriptConfigMap := v }
  | .injectDefaultScript, v, s => { s with injectDefaultScript := v }
  | .stripEof, v, s => { s with stripEof := v }
  | .terminateStatus, v, s => { s with terminateStatus := v }
  | .trackArtifacts, v, s => { s with trackArtifacts := v }
  | .dbConfigConMaxLifetimeSec, v, s => { s with dbConfigConMaxLifetimeSec := v }
  | .collectMetrics, v, s => { s with collectMetrics := v }
  | .enableRoute, v, s => { s with enableRoute := v }
  | .enableSamplePipeline, v, s => { s with enableSamplePipeline := v }
  | .autoUpdatePipelineDefaultVersion, v, s => { s with autoUpdatePipelineDefaultVersion := v }
  | .resources, v, s => { s with resources := v }

/-- The parameters with the slot of a field replaced. -/
def write : Setting k → k.Value → Parameters.ApiServer → Parameters.ApiServer
  | .deploy, v, q => { q with deploy := v }
  | .image, v, q => { q with image := v }
  | .applyTektonCustomResource, v, q => { q with applyTektonCustomResource := v }
  | .archiveLogs, v, q => { q with archiveLogs := v }
  | .artifactImage, v, q => { q with artifactImage := v }
  | .cacheImage, v, q => { q with cacheImage := v }
  | .moveResultsImage, v, q => { q with moveResultsImage := v }
  | .artifactScriptConfigMap, v, q => { q with artifactScriptConfigMap := v }
  | .injectDefaultScript, v, q => { q with injectDefaultScript := v }
  | .stripEof, v, q => { q with stripEof := v }
  | .terminateStatus, v, q => { q with terminateStatus := v }
  | .trackArtifacts, v, q => { q with trackArtifacts := v }
  | .dbConfigConMaxLifetimeSec, v, q => { q with dbConfigConMaxLifetimeSec := v }
  | .collectMetrics, v, q => { q with collectMetrics := v }
  | .enableRoute, v, q => { q with enableRoute := v }
  | .enableSamplePipeline, v, q => { q with enableSamplePipeline := v }
  | .autoUpdatePipelineDefaultVersion, v, q => { q with autoUpdatePipelineDefaultVersion := v }
  | .resources, v, q => { q with resources := v }

end ApiServer.Setting

/-- The fields of a persistence agent block. -/
inductive PersistenceAgent.Setting : FieldKind → Type where
  | deploy : Setting .flag
  | image : Setting .text
  | numWorkers : Setting .number
  | resources : Setting .resources

namespace PersistenceAgent.Setting

/-- The block with a field set. -/
def put : Setting k → Option k.Value → PersistenceAgent → PersistenceAgent
  | .deploy, v, s => { s with deploy := v.getD false }
  | .image, v, s => { s with image := v }
  | .numWorkers, v, s => { s with numWorkers := v }
  | .resources, v, s => { s with resources := v }

/-- The parameters with the slot of a field replaced. -/
def write : Setting k → k.Value → Parameters.PersistenceAgent → Parameters.PersistenceAgent
  | .deploy, v, q => { q with deploy := v }
  | .image, v, q => { q with image := v }
  | .numWorkers, v, q => { q with numWorkers := v }
  | .resources, v, q => { q with resources := v }

end PersistenceAgent.Setting

/-- The fields of a scheduled workflow block. -/
inductive ScheduledWorkflow.Setting : FieldKind → Type where
  | deploy : Setting .flag
  | image : Setting .text
  | cronScheduleTimezone : Setting .text
  | resources : Setting .resources

namespace ScheduledWorkflow.Setting

/-- The block with a field set. -/
def put : Setting k → Option k.Value → ScheduledWorkflow → ScheduledWorkflow
  | .deploy, v, s => { s with deploy := v.getD false }
  | .image, v, s => { s with image := v }
  | .cronScheduleTimezone, v, s => { s with cronScheduleTimezone := v }
  | .resources, v, s => { s with resources := v }

/-- The parameters with the slot of a field replaced. -/
def write : Setting k → k.Value → Parameters.ScheduledWorkflow → Parameters.ScheduledWorkflow
  | .deploy, v, q => { q with deploy := v }
  | .image, v, q => { q with image := v }
  | .cronScheduleTimezone, v, q => { q with cronScheduleTimezone := v }
  | .resources, v, q => { q with resources := v }

end ScheduledWorkflow.Setting

/-- The fields of a user interface block. -/
inductive UserInterface.Setting : FieldKind → Type where
  | deploy : Setting .flag
  | configMapName : Setting .text
  | resources : Setting .resources
  | image : Setting .text

namespace UserInterface.Setting

/-- The block with a field set. -/
def put : Setting k → Option k.Value → UserInterface → UserInterface
  | .deploy, v, s => { s with deploy := v.getD false }
  | .configMapName, v, s => { s with configMapName := v }
  | .resources, v, s => { s with resources := v }
  | .image, v, s => { s with image := v.getD "" }

/-- The parameters with the slot of a field replaced. -/
def write : Setting k → k.Value → Parameters.UserInterface → Parameters.UserInterface
  | .deploy, v, q => { q with deploy := v }
  | .configMapName, v, q => { q with configMapName := v }
  | .resources, v, q => { q with resources := v }
  | .image, v, q => { q with image := v }

end UserInterface.Setting

/-- The fields of the envoy and of the writer of a metadata service block. -/
inductive MlmdPart.Setting : FieldKind → Type where
  | resources : Setting .resources
  | image : Setting .text

namespace MlmdPart.Setting

/-- The block with a field set. -/
def put : Setting k → Option k.Value → MlmdPart → MlmdPart
  | .resources, v, s => { s with resources := v }
  | .image, v, s => { s with image := v.getD "" }

/-- The parameters with the slot of a field replaced. -/
def write : Setting k → k.Value → Parameters.MlmdPart → Parameters.MlmdPart
  | .resources, v, q => { q with resources := v }
  | .image, v, q => { q with image := v }

end MlmdPart.Setting

/-- The fields of the server of a metadata service block. -/
inductive MlmdGrpc.Setting : FieldKind → Type where
  | resources : Setting .resources
  | image : Setting .text
  | port : Setting .text

namespace MlmdGrpc.Setting

/-- The block with a field set. -/
def put : Setting k → Option k.Value → MlmdGrpc → MlmdGrpc
  | .resources, v, s => { s with resources := v }
  | .image, v, s => { s with image := v.getD "" }
  | .port, v, s => { s with port := v.getD "" }

/-- The parameters with the slot of a field replaced. -/
def write : Setting k → k.Value → Parameters.MlmdGrpc → Parameters.MlmdGrpc
  | .resources, v, q => { q with resources := v }
  | .image, v, q => { q with image := v }
  | .port, v, q => { q with port := v }

end MlmdGrpc.Setting

/-- The fields of a metadata service block and of its parts. -/
inductive Mlmd.Setting : FieldKind → Type where
  | deploy : Setting .flag
  | envoy {k : FieldKind} (f : MlmdPart.Setting k) : Setting k
  | grpc {k : FieldKind} (f : MlmdGrpc.Setting k) : Setting k
  | writer {k : FieldKind} (f : MlmdPart.Setting k) : Setting k

namespace Mlmd.Setting

/-- The part that a field belongs to is in the block. -/
def In : Setting k → Mlmd → Prop
  | .deploy, _ => True
  | .envoy _, s => s.envoy.isSome
  | .grpc _, s => s.grpc.isSome
  | .writer _, s => s.writer.isSome

/-- The block with a field set. -/
def put : Setting k → Option k.Value → Mlmd → Mlmd
  | .deploy, v, s => { s with deploy := v.getD false }
  | .envoy f, v, s => { s with envoy := s.envoy.map (f.put v) }
  | .grpc f, v, s => { s with grpc := s.grpc.map (f.put v) }
  | .writer f, v, s => { s with writer := s.writer.map (f.put v) }

/-- The parameters with the slot of a field replaced. -/
def write : Setting k → k.Value → Parameters.Mlmd → Parameters.Mlmd
  | .deploy, v, q => { q with deploy := v }
  | .envoy f, v, q => { q with envoy := f.write v q.envoy }
  | .grpc f, v, q => { q with grpc := f.write v q.grpc }
  | .writer f, v, q => { q with writer := f.write v q.writer }

end Mlmd.Setting

/-- The fields of a block with an image only. -/
inductive ImageOnly.Setting : FieldKind → Type where
  | deploy : Setting .flag
  | image : Setting .text

namespace ImageOnly.Setting

/-- The block with a field set. -/
def put : Setting k → Option k.Value → ImageOnly → ImageOnly
  | .deploy, v, s => { s with deploy := v.getD false }
  | .image, v, s => { s with image := v }

/-- The parameters with the slot of a field replaced. -/
def write : Setting k → k.Value → Parameters.ImageOnly → Parameters.ImageOnly
  | .deploy, v, q => { q with deploy := v }
  | .image, v, q => { q with image := v }

end ImageOnly.Setting

/-- The fields of a managed database block. -/
inductive MariaDb.Setting : FieldKind → Type where
  | deploy : Setting .flag
  | image : Setting .text
  | username : Setting .text
  | dbName : Setting .text
  | pvcSize : Setting .quantity
  | resources : Setting .resources

namespace MariaDb.Setting

/-- The block with a field set. -/
def put : Setting k → Option k.Value → MariaDb → MariaDb
  | .deploy, v, s => { s with deploy := v.getD false }
  | .image, v, s => { s with image := v }
  | .username, v, s => { s with username := v }
  | .dbName, v, s => { s with dbName := v }
  | .pvcSize, v, s => { s with pvcSize := v }
  | .resources, v, s => { s with resources := v }

/-- The parameters of a managed database with the slot of a field replaced. -/
def writeManaged : Setting k → k.Value → Parameters.MariaDb → Parameters.MariaDb
  | .deploy, v, q => { q with deploy := v }
  | .image, v, q => { q with image := v }
  | .username, v, q => { q with username := v }
  | .dbName, v, q => { q with dbName := v }
  | .pvcSize, v, q => { q with pvcSize := v }
  | .resources, v, q => { q with resources := v }

/-- A connection with the copy of a field replaced, if it has one. -/
def writeConnection : Setting k → k.Value → Parameters.DatabaseConnection →
    Parameters.DatabaseConnection
  | .username, v, q => { q with username := v }
  | .dbName, v, q => { q with dbName := v }
  | _, _, q => q

/-- The parameters of a database with the slot of a field replaced, and the copy in the
connection. -/
def write (f : Setting k) (v : k.Value) (q : Parameters.Database) : Parameters.Database where
  managed := q.managed.map (f.writeManaged v)
  connection := f.writeConnection v q.connection

end MariaDb.Setting

/-- The fields of a managed object storage block. -/
inductive Minio.Setting : FieldKind → Type where
  | deploy : Setting .flag
  | bucket : Setting .text
  | pvcSize : Setting .quantity
  | resources : Setting .resources
  | image : Setting .text

namespace Minio.Setting

/-- The block with a field set. -/
def put : Setting k → Option k.Value → Minio → Minio
  | .deploy, v, s => { s with deploy := v.getD false }
  | .bucket, v, s => { s with bucket := v }
  | .pvcSize, v, s => { s with pvcSize := v }
  | .resources, v, s => { s with resources := v }
  | .image, v, s => { s with image := v.getD "" }

/-- The parameters of managed object storage with the slot of a field replaced. -/
def writeManaged : Setting k → k.Value → Parameters.Minio → Parameters.Minio
  | .deploy, v, q => { q with deploy := v }
  | .bucket, v, q => { q with bucket := v }
  | .pvcSize, v, q => { q with pvcSize := v }
  | .resources, v, q => { q with resources := v }
  | .image, v, q => { q with image := v }

/-- A connection with the copy of a field replaced, if it has one. -/
def writeConnection : Setting k → k.Value → Parameters.StorageConnection →
    Parameters.StorageConnection
  | .bucket, v, q => { q with bucket := v }
  | _, _, q => q

/-- The parameters of object storage with the slot of a field replaced, and the copy in the
connection. -/
def write (f : Setting k) (v : k.Value) (q : Parameters.ObjectStorage) :
    Parameters.ObjectStorage where
  managed := q.managed.map (f.writeManaged v)
  connection := f.writeConnection v q.connection

end Minio.Setting

/-! ## The fields of an application -/

namespace DatabaseSource

/-- The block of a managed database, if it is there. -/
def block? : DatabaseSource → Option MariaDb
  | .external _ => none
  | .managed block => block

/-- A source with a change in the block of the managed database, if it is there. -/
def modify (change : MariaDb → MariaDb) : DatabaseSource → DatabaseSource
  | .external e => .external e
  | .managed block => .managed (block.map change)

end DatabaseSource

namespace StorageSource

/-- The block of managed object storage. -/
def block? : StorageSource → Option Minio
  | .external _ => none
  | .managed block => some block

/-- A source with a change in the block of managed object storage. -/
def modify (change : Minio → Minio) : StorageSource → StorageSource
  | .external e => .external e
  | .managed block => .managed (change block)

end StorageSource

namespace Application

/-- The fields of the blocks of an application. -/
inductive Setting (k : FieldKind) where
  | apiServer (f : ApiServer.Setting k)
  | persistenceAgent (f : PersistenceAgent.Setting k)
  | scheduledWorkflow (f : ScheduledWorkflow.Setting k)
  | userInterface (f : UserInterface.Setting k)
  | mlmd (f : Mlmd.Setting k)
  | crdViewer (f : ImageOnly.Setting k)
  | visualizationServer (f : ImageOnly.Setting k)
  | workflowController (f : ImageOnly.Setting k)
  | mariaDb (f : MariaDb.Setting k)
  | minio (f : Minio.Setting k)

namespace Setting

/-- The block of a field is in the application. -/
def In (a : Application) : Setting k → Prop
  | .apiServer _ => a.spec.components.apiServer.isSome
  | .persistenceAgent _ => a.spec.components.persistenceAgent.isSome
  | .scheduledWorkflow _ => a.spec.components.scheduledWorkflow.isSome
  | .userInterface _ => a.spec.components.userInterface.isSome
  | .mlmd f => ∃ block, a.spec.components.mlmd = some block ∧ f.In block
  | .crdViewer _ => a.spec.components.crdViewer.isSome
  | .visualizationServer _ => a.spec.components.visualizationServer.isSome
  | .workflowController _ => a.spec.components.workflowController.isSome
  | .mariaDb _ => a.spec.database.source.block?.isSome
  | .minio _ => (a.spec.objectStorage.source.bind (·.block?)).isSome

/-- The application with a field set in its block, if that is there. -/
def put (v : Option k.Value) (a : Application) : Setting k → Application
  | .apiServer f =>
    { a with spec.components.apiServer := a.spec.components.apiServer.map (f.put v) }
  | .persistenceAgent f =>
    { a with spec.components.persistenceAgent := a.spec.components.persistenceAgent.map (f.put v) }
  | .scheduledWorkflow f =>
    { a with
      spec.components.scheduledWorkflow := a.spec.components.scheduledWorkflow.map (f.put v) }
  | .userInterface f =>
    { a with spec.components.userInterface := a.spec.components.userInterface.map (f.put v) }
  | .mlmd f => { a with spec.components.mlmd := a.spec.components.mlmd.map (f.put v) }
  | .crdViewer f =>
    { a with spec.components.crdViewer := a.spec.components.crdViewer.map (f.put v) }
  | .visualizationServer f =>
    { a with
      spec.components.visualizationServer := a.spec.components.visualizationServer.map (f.put v) }
  | .workflowController f =>
    { a with
      spec.components.workflowController := a.spec.components.workflowController.map (f.put v) }
  | .mariaDb f => { a with spec.database.source := a.spec.database.source.modify (f.put v) }
  | .minio f =>
    { a with
      spec.objectStorage.source := a.spec.objectStorage.source.map (.modify (f.put v)) }

/-- The parameters with the slot of a field replaced, and the copy that a connection has of it. -/
def write (v : k.Value) (q : Parameters) : Setting k → Parameters
  | .apiServer f => { q with apiServer := f.write v q.apiServer }
  | .persistenceAgent f => { q with persistenceAgent := f.write v q.persistenceAgent }
  | .scheduledWorkflow f => { q with scheduledWorkflow := f.write v q.scheduledWorkflow }
  | .userInterface f => { q with userInterface := q.userInterface.map (f.write v) }
  | .mlmd f => { q with mlmd := q.mlmd.map (f.write v) }
  | .crdViewer f => { q with crdViewer := f.write v q.crdViewer }
  | .visualizationServer f => { q with visualizationServer := f.write v q.visualizationServer }
  | .workflowController f => { q with workflowController := f.write v q.workflowController }
  | .mariaDb f => { q with database := f.write v q.database }
  | .minio f => { q with objectStorage := f.write v q.objectStorage }

end Setting

end Application

end PipelinesOperator
