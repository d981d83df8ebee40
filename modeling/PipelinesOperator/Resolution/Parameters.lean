import PipelinesOperator.Credential.Pass
import PipelinesOperator.Json.Canonical

/-!
# The parameters of an application

The parameters are everything a deployment of an application needs to know, secret material
apart: every choice that the user left open is made.  Their canonical text is hashed, so that
a change of any of them shows.
-/

namespace PipelinesOperator

namespace Parameters

/-- The parameters of the API server. -/
structure ApiServer where
  deploy : Bool
  image : String
  artifactImage : String
  cacheImage : String
  moveResultsImage : String
  artifactScriptConfigMap : ScriptConfigMap
  applyTektonCustomResource : Bool
  archiveLogs : Bool
  injectDefaultScript : Bool
  stripEof : Bool
  terminateStatus : String
  trackArtifacts : Bool
  dbConfigConMaxLifetimeSec : Int32
  collectMetrics : Bool
  enableRoute : Bool
  enableSamplePipeline : Bool
  autoUpdatePipelineDefaultVersion : Bool
  resources : Requirements
  deriving DecidableEq, Repr

/-- The parameters of the persistence agent. -/
structure PersistenceAgent where
  deploy : Bool
  image : String
  numWorkers : Int32
  resources : Requirements
  deriving DecidableEq, Repr

/-- The parameters of the controller of scheduled runs. -/
structure ScheduledWorkflow where
  deploy : Bool
  image : String
  cronScheduleTimezone : String
  resources : Requirements
  deriving DecidableEq, Repr

/-- The parameters of the user interface. -/
structure UserInterface where
  deploy : Bool
  image : String
  configMapName : String
  resources : Requirements
  deriving DecidableEq, Repr

/-- The parameters of a part of the metadata service. -/
structure MlmdPart where
  image : String
  resources : Requirements
  deriving DecidableEq, Repr

/-- The parameters of the server of the metadata service. -/
structure MlmdGrpc where
  image : String
  port : String
  resources : Requirements
  deriving DecidableEq, Repr

/-- The parameters of the metadata service. -/
structure Mlmd where
  deploy : Bool
  envoy : MlmdPart
  grpc : MlmdGrpc
  writer : MlmdPart
  deriving DecidableEq, Repr

/-- The parameters of a component of which only the image can be chosen. -/
structure ImageOnly where
  deploy : Bool
  image : String
  deriving DecidableEq, Repr

/-- The parameters of a managed database. -/
structure MariaDb where
  deploy : Bool
  image : String
  username : String
  dbName : String
  pvcSize : Quantity
  resources : Requirements
  deriving DecidableEq, Repr

/-- How the database is reached, and where its password is kept.  The operator's own secret
is recorded even when another one is in use. -/
structure DatabaseConnection where
  host : String
  port : String
  username : String
  dbName : String
  credentials : CredentialReference
  operatorSecret : CredentialReference
  passwordOrigin : Origin
  external : Bool
  disableHealthCheck : Bool
  deriving DecidableEq, Repr

/-- The parameters of the database; an external one is not managed. -/
structure Database where
  managed : Option MariaDb
  connection : DatabaseConnection
  deriving DecidableEq, Repr

/-- The parameters of managed object storage. -/
structure Minio where
  deploy : Bool
  image : String
  bucket : String
  pvcSize : Quantity
  resources : Requirements
  deriving DecidableEq, Repr

/-- How object storage is reached, and where its keys are kept. -/
structure StorageConnection where
  host : String
  port : String
  scheme : String
  bucket : String
  secure : Bool
  endpoint : String
  credentials : CredentialReference
  operatorSecret : CredentialReference
  keysOrigin : Origin
  external : Bool
  disableHealthCheck : Bool
  deriving DecidableEq, Repr

/-- The parameters of object storage; an external one is not managed. -/
structure ObjectStorage where
  managed : Option Minio
  connection : StorageConnection
  deriving DecidableEq, Repr

end Parameters

/-- Everything a deployment needs to know, secret material apart. -/
structure Parameters where
  name : String
  space : String
  dspVersion : String
  engineDriver : String
  apiServerServiceName : String
  oauthProxyImage : String
  apiServer : Parameters.ApiServer
  persistenceAgent : Parameters.PersistenceAgent
  scheduledWorkflow : Parameters.ScheduledWorkflow
  userInterface : Option Parameters.UserInterface
  mlmd : Option Parameters.Mlmd
  crdViewer : Parameters.ImageOnly
  visualizationServer : Parameters.ImageOnly
  workflowController : Parameters.ImageOnly
  database : Parameters.Database
  objectStorage : Parameters.ObjectStorage
  deriving DecidableEq, Repr

namespace Parameters

/-- A field that is always there. -/
def field {α : Type} (key : String) : Field α := .required key none

/-- How the origin of a credential is spelled. -/
def originShape : Shape Origin :=
  .word (fun | .existing => "Existing" | .created => "Created" | .adopted => "Adopted")
    (fun s => if s = "Existing" then some .existing else if s = "Created" then some .created
      else if s = "Adopted" then some .adopted else none)
    (by intro a; cases a <;> rfl)

/-- The shape of the parameters of the API server. -/
def ApiServer.shape : Shape ApiServer :=
  .struct "ApiServerParams"
    (.cons (field "deploy") .flag <|
     .cons (field "image") .text <|
     .cons (field "artifactImage") .text <|
     .cons (field "cacheImage") .text <|
     .cons (field "moveResultsImage") .text <|
     .cons (field "artifactScriptConfigMap") (ScriptConfigMap.shape .hub) <|
     .cons (field "applyTektonCustomResource") .flag <|
     .cons (field "archiveLogs") .flag <|
     .cons (field "injectDefaultScript") .flag <|
     .cons (field "stripEof") .flag <|
     .cons (field "terminateStatus") .text <|
     .cons (field "trackArtifacts") .flag <|
     .cons (field "dbConfigConMaxLifetimeSec") .int32 <|
     .cons (field "collectMetrics") .flag <|
     .cons (field "enableRoute") .flag <|
     .cons (field "enableSamplePipeline") .flag <|
     .cons (field "autoUpdatePipelineDefaultVersion") .flag <|
     .cons (field "resources") Requirements.shape .nil)
    (fun (a, b, c, d, e, f, g, h, i, j, k, l, m, n, o, p, q, r, _) =>
      ⟨a, b, c, d, e, f, g, h, i, j, k, l, m, n, o, p, q, r⟩)
    (fun s => (s.deploy, s.image, s.artifactImage, s.cacheImage, s.moveResultsImage,
      s.artifactScriptConfigMap, s.applyTektonCustomResource, s.archiveLogs,
      s.injectDefaultScript, s.stripEof, s.terminateStatus, s.trackArtifacts,
      s.dbConfigConMaxLifetimeSec, s.collectMetrics, s.enableRoute, s.enableSamplePipeline,
      s.autoUpdatePipelineDefaultVersion, s.resources, ()))

/-- The shape of the parameters of the persistence agent. -/
def PersistenceAgent.shape : Shape PersistenceAgent :=
  .struct "PersistenceAgentParams"
    (.cons (field "deploy") .flag <| .cons (field "image") .text <|
     .cons (field "numWorkers") .int32 <| .cons (field "resources") Requirements.shape .nil)
    (fun (a, b, c, d, _) => ⟨a, b, c, d⟩)
    (fun s => (s.deploy, s.image, s.numWorkers, s.resources, ()))

/-- The shape of the parameters of the controller of scheduled runs. -/
def ScheduledWorkflow.shape : Shape ScheduledWorkflow :=
  .struct "ScheduledWorkflowParams"
    (.cons (field "deploy") .flag <| .cons (field "image") .text <|
     .cons (field "cronScheduleTimezone") .text <|
     .cons (field "resources") Requirements.shape .nil)
    (fun (a, b, c, d, _) => ⟨a, b, c, d⟩)
    (fun s => (s.deploy, s.image, s.cronScheduleTimezone, s.resources, ()))

/-- The shape of the parameters of the user interface. -/
def UserInterface.shape : Shape UserInterface :=
  .struct "UiParams"
    (.cons (field "deploy") .flag <| .cons (field "image") .text <|
     .cons (field "configMapName") .text <| .cons (field "resources") Requirements.shape .nil)
    (fun (a, b, c, d, _) => ⟨a, b, c, d⟩)
    (fun s => (s.deploy, s.image, s.configMapName, s.resources, ()))

/-- The shape of the parameters of a part of the metadata service. -/
def MlmdPart.shape : Shape MlmdPart :=
  .struct "MlmdComponentParams"
    (.cons (field "image") .text <| .cons (field "resources") Requirements.shape .nil)
    (fun (a, b, _) => ⟨a, b⟩) (fun s => (s.image, s.resources, ()))

/-- The shape of the parameters of the server of the metadata service. -/
def MlmdGrpc.shape : Shape MlmdGrpc :=
  .struct "MlmdGrpcParams"
    (.cons (field "image") .text <| .cons (field "port") .text <|
     .cons (field "resources") Requirements.shape .nil)
    (fun (a, b, c, _) => ⟨a, b, c⟩) (fun s => (s.image, s.port, s.resources, ()))

/-- The shape of the parameters of the metadata service. -/
def Mlmd.shape : Shape Mlmd :=
  .struct "MlmdParams"
    (.cons (field "deploy") .flag <| .cons (field "envoy") MlmdPart.shape <|
     .cons (field "grpc") MlmdGrpc.shape <| .cons (field "writer") MlmdPart.shape .nil)
    (fun (a, b, c, d, _) => ⟨a, b, c, d⟩) (fun s => (s.deploy, s.envoy, s.grpc, s.writer, ()))

/-- The shape of the parameters of a component with an image only. -/
def ImageOnly.shape : Shape ImageOnly :=
  .struct "ImageOnlyParams"
    (.cons (field "deploy") .flag <| .cons (field "image") .text .nil)
    (fun (a, b, _) => ⟨a, b⟩) (fun s => (s.deploy, s.image, ()))

/-- The shape of the parameters of a managed database. -/
def MariaDb.shape : Shape MariaDb :=
  .struct "MariaDbParams"
    (.cons (field "deploy") .flag <| .cons (field "image") .text <|
     .cons (field "username") .text <| .cons (field "dbName") .text <|
     .cons (field "pvcSize") .quantity <| .cons (field "resources") Requirements.shape .nil)
    (fun (a, b, c, d, e, f, _) => ⟨a, b, c, d, e, f⟩)
    (fun s => (s.deploy, s.image, s.username, s.dbName, s.pvcSize, s.resources, ()))

/-- The shape of a connection to a database. -/
def DatabaseConnection.shape : Shape DatabaseConnection :=
  .struct "DbConnection"
    (.cons (field "host") .text <| .cons (field "port") .text <|
     .cons (field "username") .text <| .cons (field "dbName") .text <|
     .cons (field "credentials") CredentialReference.shape <|
     .cons (field "operatorSecret") CredentialReference.shape <|
     .cons (field "passwordOrigin") originShape <| .cons (field "external") .flag <|
     .cons (field "disableHealthCheck") .flag .nil)
    (fun (a, b, c, d, e, f, g, h, i, _) => ⟨a, b, c, d, e, f, g, h, i⟩)
    (fun s => (s.host, s.port, s.username, s.dbName, s.credentials, s.operatorSecret,
      s.passwordOrigin, s.external, s.disableHealthCheck, ()))

/-- The shape of the parameters of a database. -/
def Database.shape : Shape Database :=
  .struct "DatabaseParams"
    (.cons (.nullable "managed" none) (.optional MariaDb.shape) <|
     .cons (field "connection") DatabaseConnection.shape .nil)
    (fun (a, b, _) => ⟨a, b⟩) (fun s => (s.managed, s.connection, ()))

/-- The shape of the parameters of managed object storage. -/
def Minio.shape : Shape Minio :=
  .struct "MinioParams"
    (.cons (field "deploy") .flag <| .cons (field "image") .text <|
     .cons (field "bucket") .text <| .cons (field "pvcSize") .quantity <|
     .cons (field "resources") Requirements.shape .nil)
    (fun (a, b, c, d, e, _) => ⟨a, b, c, d, e⟩)
    (fun s => (s.deploy, s.image, s.bucket, s.pvcSize, s.resources, ()))

/-- The shape of a connection to object storage. -/
def StorageConnection.shape : Shape StorageConnection :=
  .struct "ObjectStorageConnection"
    (.cons (field "host") .text <| .cons (field "port") .text <|
     .cons (field "scheme") .text <| .cons (field "bucket") .text <|
     .cons (field "secure") .flag <| .cons (field "endpoint") .text <|
     .cons (field "credentials") CredentialReference.shape <|
     .cons (field "operatorSecret") CredentialReference.shape <|
     .cons (field "keysOrigin") originShape <| .cons (field "external") .flag <|
     .cons (field "disableHealthCheck") .flag .nil)
    (fun (a, b, c, d, e, f, g, h, i, j, k, _) => ⟨a, b, c, d, e, f, g, h, i, j, k⟩)
    (fun s => (s.host, s.port, s.scheme, s.bucket, s.secure, s.endpoint, s.credentials,
      s.operatorSecret, s.keysOrigin, s.external, s.disableHealthCheck, ()))

/-- The shape of the parameters of object storage. -/
def ObjectStorage.shape : Shape ObjectStorage :=
  .struct "ObjectStorageParams"
    (.cons (.nullable "managed" none) (.optional Minio.shape) <|
     .cons (field "connection") StorageConnection.shape .nil)
    (fun (a, b, _) => ⟨a, b⟩) (fun s => (s.managed, s.connection, ()))

/-- The shape of parameters. -/
def shape : Shape Parameters :=
  .struct "DspaParams"
    (.cons (field "name") .text <| .cons (field "namespace") .text <|
     .cons (field "dspVersion") .text <| .cons (field "engineDriver") .text <|
     .cons (field "apiServerServiceName") .text <| .cons (field "oauthProxyImage") .text <|
     .cons (field "apiServer") ApiServer.shape <|
     .cons (field "persistenceAgent") PersistenceAgent.shape <|
     .cons (field "scheduledWorkflow") ScheduledWorkflow.shape <|
     .cons (.nullable "mlPipelineUi" none) (.optional UserInterface.shape) <|
     .cons (.nullable "mlmd" none) (.optional Mlmd.shape) <|
     .cons (field "crdViewer") ImageOnly.shape <|
     .cons (field "visualizationServer") ImageOnly.shape <|
     .cons (field "workflowController") ImageOnly.shape <|
     .cons (field "database") Database.shape <|
     .cons (field "objectStorage") ObjectStorage.shape .nil)
    (fun (a, b, c, d, e, f, g, h, i, j, k, l, m, n, o, p, _) =>
      ⟨a, b, c, d, e, f, g, h, i, j, k, l, m, n, o, p⟩)
    (fun s => (s.name, s.space, s.dspVersion, s.engineDriver, s.apiServerServiceName,
      s.oauthProxyImage, s.apiServer, s.persistenceAgent, s.scheduledWorkflow, s.userInterface,
      s.mlmd, s.crdViewer, s.visualizationServer, s.workflowController, s.database,
      s.objectStorage, ()))

/-- The text that is hashed. -/
def canonicalText (p : Parameters) : String := (shape.write p).canonicalText

/-- The secrets that the pass stored, the database first. -/
def createdSecrets (p : Parameters) : List String :=
  let database := p.database.connection
  let storage := p.objectStorage.connection
  (if database.passwordOrigin = .created then [database.credentials.name] else []) ++
    (if storage.keysOrigin = .created then [storage.credentials.name] else [])

end Parameters

end PipelinesOperator
