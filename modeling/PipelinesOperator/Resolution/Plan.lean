import PipelinesOperator.Application.Basic
import PipelinesOperator.Config.Registry
import PipelinesOperator.Resolution.Parameters

/-!
# Planning

A plan is made before any secret is looked at: every choice that the user left open is made
from the registry or from a fixed default, and every mistake that can be seen is found.  An
empty text counts as no text.

## Main definitions

* `plan`: the plan of an application, or the first mistake in it
* `defaultedBlocks`: the blocks that the operator fills in on the way
-/

namespace PipelinesOperator

/-- A text that is not empty. -/
def nonEmpty (value : Option String) : Option String := value.filter (· ≠ "")

/-- A text, or the default if it is absent or empty. -/
def orDefault (value : Option String) (default : String) : String :=
  (nonEmpty value).getD default

/-- A quantity, or the default if it is absent or empty. -/
def quantityOr (value : Option Quantity) (default : String) : Quantity :=
  (value.filter (·.text ≠ "")).getD ⟨default⟩

/-- A positive number, or the default. -/
def positiveOr (value : Option Int32) (default : Int32) : Int32 :=
  (value.filter (0 < ·)).getD default

namespace Requirements

/-- Requirements with all four amounts. -/
def of (requestCpu requestMemory limitCpu limitMemory : String) : Requirements where
  requests := some ⟨some ⟨requestCpu⟩, some ⟨requestMemory⟩⟩
  limits := some ⟨some ⟨limitCpu⟩, some ⟨limitMemory⟩⟩

/-- What the API server gets. -/
def apiServer : Requirements := of "250m" "500Mi" "500m" "1Gi"

/-- What the persistence agent gets. -/
def persistenceAgent : Requirements := of "120m" "500Mi" "250m" "1Gi"

/-- What the controller of scheduled runs gets. -/
def scheduledWorkflow : Requirements := of "120m" "100Mi" "250m" "250Mi"

/-- What a managed database gets. -/
def mariaDb : Requirements := of "300m" "800Mi" "1" "1Gi"

/-- What managed object storage gets. -/
def minio : Requirements := of "200m" "100Mi" "250m" "1Gi"

/-- What the user interface and each part of the metadata service get. -/
def small : Requirements := of "100m" "256Mi" "100m" "256Mi"

end Requirements

/-- The address of object storage; an empty port is left out. -/
def endpoint (scheme host port : String) : String :=
  -- External storage may be reached by its name alone.
  if port = "" then scheme ++ "://" ++ host else scheme ++ "://" ++ host ++ ":" ++ port

/-- The parameters of the database, the origin of its password apart. -/
structure DatabasePlan where
  managed : Option Parameters.MariaDb
  host : String
  port : String
  username : String
  dbName : String
  credentials : CredentialReference
  operatorSecret : CredentialReference
  external : Bool
  disableHealthCheck : Bool
  deriving DecidableEq, Repr

/-- The parameters of object storage, the origin of its keys apart. -/
structure StoragePlan where
  managed : Option Parameters.Minio
  host : String
  port : String
  scheme : String
  bucket : String
  secure : Bool
  credentials : CredentialReference
  operatorSecret : CredentialReference
  external : Bool
  disableHealthCheck : Bool
  deriving DecidableEq, Repr

/-- Everything that is known before any secret is looked at. -/
structure Plan where
  name : String
  space : String
  dspVersion : String
  engineDriver : String
  family : Family
  oauthProxyImage : String
  apiServer : Parameters.ApiServer
  persistenceAgent : Parameters.PersistenceAgent
  scheduledWorkflow : Parameters.ScheduledWorkflow
  userInterface : Option Parameters.UserInterface
  mlmd : Option Parameters.Mlmd
  crdViewer : Parameters.ImageOnly
  visualizationServer : Parameters.ImageOnly
  workflowController : Parameters.ImageOnly
  database : DatabasePlan
  objectStorage : StoragePlan
  deriving DecidableEq, Repr

namespace Registry

/-- The user's image, or the default of a path. -/
def imageAt (r : Registry) (image : Option String) (path : ImagePath) : String :=
  (nonEmpty image).getD (r.lookup path.text)

end Registry

namespace Plan

/-- The parameters of the API server. -/
def apiServerOf (r : Registry) (family : Family) (name : String) (block : Option ApiServer) :
    Parameters.ApiServer :=
  let s := block.getD {}
  -- A script without a name is taken for none, and its key is dropped with it.
  let script : ScriptConfigMap :=
    match s.artifactScriptConfigMap.filter (·.name ≠ "") with
    | some m => ⟨m.name, orDefault (some m.key) Names.artifactScriptKey⟩
    | none => ⟨Names.artifactScript name, Names.artifactScriptKey⟩
  { deploy := s.deploy
    image := r.imageAt s.image ⟨family, .apiServer⟩
    artifactImage := r.imageAt s.artifactImage ⟨family, .artifact⟩
    cacheImage := r.imageAt s.cacheImage ⟨family, .cache⟩
    moveResultsImage := r.imageAt s.moveResultsImage ⟨family, .moveResults⟩
    artifactScriptConfigMap := script
    applyTektonCustomResource := s.applyTektonCustomResource.getD true
    archiveLogs := s.archiveLogs.getD false
    injectDefaultScript := s.injectDefaultScript.getD true
    stripEof := s.stripEof.getD true
    terminateStatus := orDefault s.terminateStatus Names.terminateStatus
    trackArtifacts := s.trackArtifacts.getD true
    dbConfigConMaxLifetimeSec := positiveOr s.dbConfigConMaxLifetimeSec Names.connectionLifetime
    collectMetrics := s.collectMetrics.getD true
    enableRoute := s.enableRoute.getD true
    enableSamplePipeline := s.enableSamplePipeline.getD true
    autoUpdatePipelineDefaultVersion := s.autoUpdatePipelineDefaultVersion.getD true
    resources := s.resources.getD .apiServer }

/-- The parameters of the persistence agent. -/
def persistenceAgentOf (r : Registry) (family : Family) (block : Option PersistenceAgent) :
    Parameters.PersistenceAgent :=
  let s := block.getD {}
  { deploy := s.deploy
    image := r.imageAt s.image ⟨family, .persistenceAgent⟩
    numWorkers := positiveOr s.numWorkers Names.numWorkers
    resources := s.resources.getD .persistenceAgent }

/-- The parameters of the controller of scheduled runs. -/
def scheduledWorkflowOf (r : Registry) (family : Family) (block : Option ScheduledWorkflow) :
    Parameters.ScheduledWorkflow :=
  let s := block.getD {}
  { deploy := s.deploy
    image := r.imageAt s.image ⟨family, .scheduledWorkflow⟩
    cronScheduleTimezone := orDefault s.cronScheduleTimezone Names.timezone
    resources := s.resources.getD .scheduledWorkflow }

/-- The parameters of the user interface, which needs an image of the user's. -/
def userInterfaceOf (name : String) (s : UserInterface) :
    Except Misconfiguration Parameters.UserInterface :=
  if s.image = "" then .error .missingUiImage
  else .ok
    { deploy := s.deploy
      image := s.image
      configMapName := orDefault s.configMapName (Names.userInterfaceConfigMap name)
      resources := s.resources.getD .small }

/-- The parameters of the metadata service. -/
def mlmdOf (r : Registry) (family : Family) (s : Mlmd) : Parameters.Mlmd :=
  let envoy := s.envoy.getD {}
  let grpc := s.grpc.getD {}
  let writer := s.writer.getD {}
  { deploy := s.deploy
    envoy := ⟨r.imageAt (some envoy.image) ⟨family, .mlmdEnvoy⟩, envoy.resources.getD .small⟩
    grpc := ⟨r.imageAt (some grpc.image) ⟨family, .mlmdGrpc⟩,
      orDefault (some grpc.port) Names.mlmdPort, grpc.resources.getD .small⟩
    writer := ⟨r.imageAt (some writer.image) ⟨family, .mlmdWriter⟩, writer.resources.getD .small⟩ }

/-- The parameters of a component with an image only. -/
def imageOnlyOf (r : Registry) (image : Image) (block : Option ImageOnly) :
    Parameters.ImageOnly :=
  let s := block.getD {}
  ⟨s.deploy, r.imageAt s.image ⟨.legacy, image⟩⟩

/-- The secret that a user names for the password of a managed database; one without a name
is none. -/
def customPassword (s : MariaDb) : Option SecretKey :=
  (s.passwordSecret.filter (·.name ≠ "")).map fun k =>
    ⟨k.name, orDefault (some k.key) Names.passwordKey⟩

/-- The parameters of the database.  One that is left to the operator is deployed. -/
def databaseOf (r : Registry) (name space : String) (d : Database) : DatabasePlan :=
  let operatorSecret := CredentialReference.database space name none
  match d.source with
  | .external e =>
    { managed := none
      host := e.host
      port := e.port
      username := e.username
      dbName := e.dbName
      credentials := .database space name (some e.passwordSecret)
      operatorSecret
      external := true
      disableHealthCheck := d.disableHealthCheck }
  | .managed block =>
    -- A block that is left out is deployed; one that is given says so itself.
    let s := block.getD { deploy := true }
    let username := orDefault s.username Names.pipelines
    let dbName := orDefault s.dbName Names.pipelines
    { managed := some
        { deploy := s.deploy
          image := r.imageAt s.image ⟨.legacy, .mariaDb⟩
          username
          dbName
          pvcSize := quantityOr s.pvcSize Names.volumeSize
          resources := s.resources.getD .mariaDb }
      host := Names.serviceHost Names.mariaDb name space
      port := Names.mariaDbPort
      username
      dbName
      credentials := .database space name (customPassword s)
      operatorSecret
      external := false
      disableHealthCheck := d.disableHealthCheck }

/-- The secret that a user names for the keys of managed object storage; one without a name
is none. -/
def customKeys (s : Minio) : Option SecretKeyPair := s.credentials.filter (·.secretName ≠ "")

/-- The parameters of object storage, which has to be given, and if managed with an image. -/
def storageOf (name space : String) (o : ObjectStorage) : Except Misconfiguration StoragePlan :=
  let operatorSecret := CredentialReference.storage space name none
  match o.source with
  | none => .error .missingObjectStorage
  | some (.external e) => .ok
    { managed := none
      host := e.host
      port := e.port
      scheme := e.scheme
      bucket := e.bucket
      -- Unless it is said, the scheme tells whether the connection is secured.
      secure := e.secure.getD (e.scheme = "https")
      credentials := .storage space name (some e.credentials)
      operatorSecret
      external := true
      disableHealthCheck := o.disableHealthCheck }
  | some (.managed s) =>
    if s.image = "" then .error .missingMinioImage
    else
      let bucket := orDefault s.bucket Names.pipelines
      .ok
      { managed := some
          { deploy := s.deploy
            image := s.image
            bucket
            pvcSize := quantityOr s.pvcSize Names.volumeSize
            resources := s.resources.getD .minio }
        host := Names.serviceHost Names.minio name space
        port := Names.minioPort
        scheme := Names.minioScheme
        bucket
        secure := false
        credentials := .storage space name (customKeys s)
        operatorSecret
        external := false
        disableHealthCheck := o.disableHealthCheck }

end Plan

/-- What an application is called, and the images it draws on. -/
structure Identity where
  name : String
  space : String
  family : Family
  deriving DecidableEq, Repr

namespace Application

/-- The identity of an application: its name, then its namespace, then its images. -/
def identify (a : Application) : Except Misconfiguration Identity :=
  -- The order is that in which mistakes are reported.
  match nonEmpty a.metadata.name with
  | none => .error (.missingMetadata "metadata.name")
  | some name =>
    match nonEmpty a.metadata.space with
    | none => .error (.missingMetadata "metadata.namespace")
    | some space =>
      (Family.resolve a.spec.components.dspVersion a.spec.components.engineDriver).map
        fun family => ⟨name, space, family⟩

/-- The parameters of the user interface, if there is to be one. -/
def userInterfacePlan (a : Application) (name : String) :
    Except Misconfiguration (Option Parameters.UserInterface) :=
  match a.spec.components.userInterface with
  | none => .ok none
  | some s => (Plan.userInterfaceOf name s).map some

/-- The plan of an application, or the first mistake in it: a missing name, a missing
namespace, an engine that does not exist, a user interface without an image, and object
storage that is missing or without an image. -/
def plan (r : Registry) (a : Application) : Except Misconfiguration Plan := do
  -- The stages that can fail, in the order in which their mistakes are reported.
  let ⟨name, space, family⟩ ← a.identify
  let userInterface ← a.userInterfacePlan name
  let objectStorage ← Plan.storageOf name space a.spec.objectStorage
  let c := a.spec.components
  .ok
    { name
      space
      dspVersion := c.dspVersion
      engineDriver := c.engineDriver
      family
      oauthProxyImage := r.lookup (ImagePath.mk .legacy .oauthProxy).text
      apiServer := Plan.apiServerOf r family name c.apiServer
      persistenceAgent := Plan.persistenceAgentOf r family c.persistenceAgent
      scheduledWorkflow := Plan.scheduledWorkflowOf r family c.scheduledWorkflow
      userInterface
      mlmd := c.mlmd.map (Plan.mlmdOf r family)
      crdViewer := Plan.imageOnlyOf r .crdViewer c.crdViewer
      visualizationServer := Plan.imageOnlyOf r .visualizationServer c.visualizationServer
      workflowController := Plan.imageOnlyOf r .workflowController c.workflowController
      database := Plan.databaseOf r name space a.spec.database
      objectStorage }

/-- The name of a block if it is absent. -/
def blockIfAbsent {α : Type} (name : String) (block : Option α) : List String :=
  if block.isNone then [name] else []

/-- The blocks that the operator fills in while it makes a plan.  A mistake ends the making
of the plan, so blocks behind it are not reached. -/
def defaultedBlocks (a : Application) : List String :=
  let c := a.spec.components
  match a.identify with
  | .error _ => []
  | .ok identity =>
    blockIfAbsent "apiServer" c.apiServer ++ blockIfAbsent "persistenceAgent" c.persistenceAgent ++
      blockIfAbsent "scheduledWorkflow" c.scheduledWorkflow ++
    match a.userInterfacePlan identity.name with
    | .error _ => []
    | .ok _ =>
      blockIfAbsent "crdviewer" c.crdViewer ++
        blockIfAbsent "visualizationServer" c.visualizationServer ++
        blockIfAbsent "workflowController" c.workflowController ++
        (if a.spec.database.source = .managed none then ["database"] else [])

end Application

end PipelinesOperator
