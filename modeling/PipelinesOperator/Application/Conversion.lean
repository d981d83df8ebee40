import PipelinesOperator.Application.Basic

/-!
# From the wire to the hub

A block of the wire becomes a block of the hub member by member.  Each member keeps its value, and
a block inside it is converted in its turn; a block that is absent stays absent.
-/

namespace PipelinesOperator

/-- A field of a secret, on the hub. -/
def SecretKey.toHub (s : SecretKey .wire) : SecretKey where
  name := s.name
  key := s.key

/-- The two fields of a secret, on the hub. -/
def SecretKeyPair.toHub (s : SecretKeyPair .wire) : SecretKeyPair where
  secretName := s.secretName
  accessKey := s.accessKey
  secretKey := s.secretKey

/-- An amount, on the hub. -/
def Resources.toHub (s : Resources .wire) : Resources where
  cpu := s.cpu
  memory := s.memory

/-- Requirements, on the hub. -/
def Requirements.toHub (s : Requirements .wire) : Requirements where
  limits := s.limits.map Resources.toHub
  requests := s.requests.map Resources.toHub

/-- A key of a config map, on the hub. -/
def ScriptConfigMap.toHub (s : ScriptConfigMap .wire) : ScriptConfigMap where
  name := s.name
  key := s.key

/-- The block of the API server, on the hub. -/
def ApiServer.toHub (s : ApiServer .wire) : ApiServer where
  deploy := s.deploy
  image := s.image
  applyTektonCustomResource := s.applyTektonCustomResource
  archiveLogs := s.archiveLogs
  artifactImage := s.artifactImage
  cacheImage := s.cacheImage
  moveResultsImage := s.moveResultsImage
  artifactScriptConfigMap := s.artifactScriptConfigMap.map ScriptConfigMap.toHub
  injectDefaultScript := s.injectDefaultScript
  stripEof := s.stripEof
  terminateStatus := s.terminateStatus
  trackArtifacts := s.trackArtifacts
  dbConfigConMaxLifetimeSec := s.dbConfigConMaxLifetimeSec
  collectMetrics := s.collectMetrics
  enableRoute := s.enableRoute
  enableSamplePipeline := s.enableSamplePipeline
  autoUpdatePipelineDefaultVersion := s.autoUpdatePipelineDefaultVersion
  resources := s.resources.map Requirements.toHub

/-- The block of the persistence agent, on the hub. -/
def PersistenceAgent.toHub (s : PersistenceAgent .wire) : PersistenceAgent where
  deploy := s.deploy
  image := s.image
  numWorkers := s.numWorkers
  resources := s.resources.map Requirements.toHub

/-- The block of the controller of scheduled runs, on the hub. -/
def ScheduledWorkflow.toHub (s : ScheduledWorkflow .wire) : ScheduledWorkflow where
  deploy := s.deploy
  image := s.image
  cronScheduleTimezone := s.cronScheduleTimezone
  resources := s.resources.map Requirements.toHub

/-- The block of the user interface, on the hub. -/
def UserInterface.toHub (s : UserInterface .wire) : UserInterface where
  deploy := s.deploy
  configMapName := s.configMapName
  resources := s.resources.map Requirements.toHub
  image := s.image

/-- The block of a managed database, on the hub. -/
def MariaDb.toHub (s : MariaDb .wire) : MariaDb where
  deploy := s.deploy
  image := s.image
  username := s.username
  passwordSecret := s.passwordSecret.map SecretKey.toHub
  dbName := s.dbName
  pvcSize := s.pvcSize
  resources := s.resources.map Requirements.toHub

/-- The block of an external database, on the hub. -/
def ExternalDatabase.toHub (s : ExternalDatabase .wire) : ExternalDatabase where
  host := s.host
  port := s.port
  username := s.username
  dbName := s.dbName
  passwordSecret := s.passwordSecret.toHub

/-- The block of managed object storage, on the hub. -/
def Minio.toHub (s : Minio .wire) : Minio where
  deploy := s.deploy
  bucket := s.bucket
  credentials := s.credentials.map SecretKeyPair.toHub
  pvcSize := s.pvcSize
  resources := s.resources.map Requirements.toHub
  image := s.image

/-- The block of external object storage, on the hub. -/
def ExternalStorage.toHub (s : ExternalStorage .wire) : ExternalStorage where
  host := s.host
  bucket := s.bucket
  scheme := s.scheme
  credentials := s.credentials.toHub
  secure := s.secure
  port := s.port

/-- The block of a part of the metadata service, on the hub. -/
def MlmdPart.toHub (s : MlmdPart .wire) : MlmdPart where
  resources := s.resources.map Requirements.toHub
  image := s.image

/-- The block of the server of the metadata service, on the hub. -/
def MlmdGrpc.toHub (s : MlmdGrpc .wire) : MlmdGrpc where
  resources := s.resources.map Requirements.toHub
  image := s.image
  port := s.port

/-- The block of the metadata service, on the hub. -/
def Mlmd.toHub (s : Mlmd .wire) : Mlmd where
  deploy := s.deploy
  envoy := s.envoy.map MlmdPart.toHub
  grpc := s.grpc.map MlmdGrpc.toHub
  writer := s.writer.map MlmdPart.toHub

/-- A block with an image only, on the hub. -/
def ImageOnly.toHub (s : ImageOnly .wire) : ImageOnly where
  deploy := s.deploy
  image := s.image

/-- The blocks that stand alike on both sides, on the hub. -/
def Components.toHub (c : Components .wire) : Components where
  apiServer := c.apiServer.map ApiServer.toHub
  persistenceAgent := c.persistenceAgent.map PersistenceAgent.toHub
  scheduledWorkflow := c.scheduledWorkflow.map ScheduledWorkflow.toHub
  userInterface := c.userInterface.map UserInterface.toHub
  mlmd := c.mlmd.map Mlmd.toHub
  crdViewer := c.crdViewer.map ImageOnly.toHub
  visualizationServer := c.visualizationServer.map ImageOnly.toHub
  workflowController := c.workflowController.map ImageOnly.toHub
  dspVersion := c.dspVersion
  engineDriver := c.engineDriver

/-- A condition, on the hub. -/
def Condition.toHub (c : Condition .wire) : Condition where
  type := c.type
  status := c.status
  reason := c.reason
  message := c.message
  lastTransitionTime := c.lastTransitionTime

/-- A status, on the hub. -/
def Status.toHub (s : Status .wire) : Status where
  phase := s.phase
  conditions := s.conditions.map Condition.toHub
  parametersHash := s.parametersHash
  lastUpdated := s.lastUpdated

end PipelinesOperator
