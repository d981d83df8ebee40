import PipelinesOperator.Shape.Write

/-!
# The components of an application

A block describes one component of a deployment.  A block has two faces: on the wire, where
users write it and may leave most of it out, and on the hub, the form that the versions of
the resource are converted to, where every member stands under a name of its own and only
optional values may be missing.  A block of one face is no block of the other: it has to be
converted.  Where no face is named, the hub is meant.
-/

namespace PipelinesOperator

/-- A side from which a block is seen. -/
inductive Face where
  | wire
  | hub
  deriving DecidableEq, Repr

namespace Face

variable {α : Type}

/-- A member that may have no value. -/
def optional (face : Face) (wire hub : String) (note : Option String := none) :
    Field (Option α) :=
  match face with
  | .wire => .optional wire note
  | .hub => .nullable hub none

/-- A member with a default on the wire. -/
def defaulted (face : Face) (wire hub : String) (value : α) (note : Option String := none) :
    Field α :=
  match face with
  | .wire => .defaulted wire value note
  | .hub => .required hub none

/-- A member that has to be given. -/
def required (face : Face) (wire hub : String) (note : Option String := none) : Field α :=
  match face with
  | .wire => .required wire note
  | .hub => .required hub none

end Face

/-- A field of a secret. -/
structure SecretKey (face : Face := .hub) where
  name : String
  key : String
  deriving DecidableEq, Repr

/-- The shape of a field of a secret. -/
def SecretKey.shape (face : Face := .hub) : Shape (SecretKey face) :=
  .struct "SecretKeyValue"
    (.cons (.required "name" (some "The name of the Secret to reference")) .text <|
     .cons (.required "key" (some "The key in the Secret holding the value")) .text .nil)
    (fun (a, b, _) => ⟨a, b⟩) (fun s => (s.name, s.key, ()))

/-- The two fields of a secret that hold an access key and its secret. -/
structure SecretKeyPair (face : Face := .hub) where
  secretName : String
  accessKey : String
  secretKey : String
  deriving DecidableEq, Repr

/-- The shape of two fields of a secret. -/
def SecretKeyPair.shape (face : Face := .hub) : Shape (SecretKeyPair face) :=
  .struct "S3CredentialSecret"
    (.cons (.required "secretName" (some "The name of the Secret holding the S3 credentials"))
      .text <|
     .cons (.required "accessKey" (some ("The key in the Secret holding the access key id. " ++
      "Not to be confused with the value."))) .text <|
     .cons (.required "secretKey" (some ("The key in the Secret holding the secret access key. " ++
      "Not to be confused with the value."))) .text .nil)
    (fun (a, b, c, _) => ⟨a, b, c⟩) (fun s => (s.secretName, s.accessKey, s.secretKey, ()))

/-- An amount of processor and memory. -/
structure Resources (face : Face := .hub) where
  cpu : Option Quantity := none
  memory : Option Quantity := none
  deriving DecidableEq, Repr

/-- The shape of an amount. -/
def Resources.shape (face : Face := .hub) : Shape (Resources face) :=
  .struct "Resources"
    (.cons (.optional "cpu" none) (.optional .quantity) <|
     .cons (.optional "memory" none) (.optional .quantity) .nil)
    (fun (a, b, _) => ⟨a, b⟩) (fun r => (r.cpu, r.memory, ()))

/-- What a component may use at most, and what is set aside for it. -/
structure Requirements (face : Face := .hub) where
  limits : Option (Resources face) := none
  requests : Option (Resources face) := none
  deriving DecidableEq, Repr

/-- The shape of requirements. -/
def Requirements.shape (face : Face := .hub) : Shape (Requirements face) :=
  .struct "ResourceRequirements"
    (.cons (.optional "limits" none) (.optional (Resources.shape face)) <|
     .cons (.optional "requests" none) (.optional (Resources.shape face)) .nil)
    (fun (a, b, _) => ⟨a, b⟩) (fun r => (r.limits, r.requests, ()))
    (some ("Compute resource requirements of a component. Storage is configured\n" ++
      "separately per component and is not part of this type."))

/-- The member that says what a component may use. -/
def Face.resources (face : Face) (note : Option String := none) :
    Field (Option (Requirements face)) :=
  face.optional "resources" "resources" note

/-- The member that says whether the operator manages a component. -/
def Face.deploy (face : Face) (note : Option String := none) : Field Bool :=
  face.defaulted "deploy" "deploy" true note

/-- A key of a config map that holds a script. -/
structure ScriptConfigMap (face : Face := .hub) where
  name : String
  key : String
  deriving DecidableEq, Repr

/-- The shape of a key of a config map. -/
def ScriptConfigMap.shape (face : Face) : Shape (ScriptConfigMap face) :=
  .struct "ArtifactScriptConfigMap"
    (.cons (face.defaulted "name" "name" "") .text <|
     .cons (face.defaulted "key" "key" "") .text .nil)
    (fun (a, b, _) => ⟨a, b⟩) (fun s => (s.name, s.key, ()))

/-- The server that runs pipelines are sent to. -/
structure ApiServer (face : Face := .hub) where
  deploy : Bool := false
  image : Option String := none
  applyTektonCustomResource : Option Bool := none
  archiveLogs : Option Bool := none
  artifactImage : Option String := none
  cacheImage : Option String := none
  moveResultsImage : Option String := none
  artifactScriptConfigMap : Option (ScriptConfigMap face) := none
  injectDefaultScript : Option Bool := none
  stripEof : Option Bool := none
  terminateStatus : Option String := none
  trackArtifacts : Option Bool := none
  dbConfigConMaxLifetimeSec : Option Int32 := none
  collectMetrics : Option Bool := none
  enableRoute : Option Bool := none
  enableSamplePipeline : Option Bool := none
  autoUpdatePipelineDefaultVersion : Option Bool := none
  resources : Option (Requirements face) := none
  deriving DecidableEq, Repr

/-- The shape of an API server block. -/
def ApiServer.shape (face : Face) : Shape (ApiServer face) :=
  .struct "ApiServer"
    (.cons (face.deploy (some "Enable operator management of the API server. Default: true"))
      .flag <|
     .cons (face.optional "image" "image" (some "Custom image for the API server."))
      (.optional .text) <|
     .cons (face.optional "applyTektonCustomResource" "apply_tekton_custom_resource")
      (.optional .flag) <|
     .cons (face.optional "archiveLogs" "archive_logs") (.optional .flag) <|
     .cons (face.optional "artifactImage" "artifact_image") (.optional .text) <|
     .cons (face.optional "cacheImage" "cache_image") (.optional .text) <|
     .cons (face.optional "moveResultsImage" "move_results_image"
      (some "Image used in the 'move-all-results-to-tekton-home' step of taskruns."))
      (.optional .text) <|
     .cons (face.optional "artifactScriptConfigMap" "artifact_script_config_map")
      (.optional (ScriptConfigMap.shape face)) <|
     .cons (face.optional "injectDefaultScript" "inject_default_script"
      (some "Inject the archive step script. Default: true")) (.optional .flag) <|
     .cons (face.optional "stripEOF" "strip_eof") (.optional .flag) <|
     .cons (face.optional "terminateStatus" "terminate_status"
      (some ("One of \"Cancelled\", \"StoppedRunFinally\", \"CancelledRunFinally\". " ++
        "Default: Cancelled"))) (.optional .text) <|
     .cons (face.optional "trackArtifacts" "track_artifacts") (.optional .flag) <|
     .cons (face.optional "dbConfigConMaxLifetimeSec" "db_config_con_max_lifetime_sec")
      (.optional .int32) <|
     .cons (face.optional "collectMetrics" "collect_metrics") (.optional .flag) <|
     .cons (face.optional "enableOauth" "enable_route"
      (some "Create a Route for this API server. Default: true")) (.optional .flag) <|
     .cons (face.optional "enableSamplePipeline" "enable_sample_pipeline"
      (some "Include sample pipelines. Default: true")) (.optional .flag) <|
     .cons (face.optional "autoUpdatePipelineDefaultVersion"
      "auto_update_pipeline_default_version") (.optional .flag) <|
     .cons (face.resources (some "Custom Pod resource requirements for this component."))
      (.optional (Requirements.shape face)) .nil)
    (fun (a, b, c, d, e, f, g, h, i, j, k, l, m, n, o, p, q, r, _) =>
      ⟨a, b, c, d, e, f, g, h, i, j, k, l, m, n, o, p, q, r⟩)
    (fun s => (s.deploy, s.image, s.applyTektonCustomResource, s.archiveLogs, s.artifactImage,
      s.cacheImage, s.moveResultsImage, s.artifactScriptConfigMap, s.injectDefaultScript,
      s.stripEof, s.terminateStatus, s.trackArtifacts, s.dbConfigConMaxLifetimeSec,
      s.collectMetrics, s.enableRoute, s.enableSamplePipeline,
      s.autoUpdatePipelineDefaultVersion, s.resources, ()))

/-- The agent that stores the state of runs. -/
structure PersistenceAgent (face : Face := .hub) where
  deploy : Bool := false
  image : Option String := none
  numWorkers : Option Int32 := none
  resources : Option (Requirements face) := none
  deriving DecidableEq, Repr

/-- The shape of a persistence agent block. -/
def PersistenceAgent.shape (face : Face) : Shape (PersistenceAgent face) :=
  .struct "PersistenceAgent"
    (.cons face.deploy .flag <|
     .cons (face.optional "image" "image") (.optional .text) <|
     .cons (face.optional "numWorkers" "num_workers"
      (some "Number of workers for the sync job. Default: 2")) (.optional .int32) <|
     .cons face.resources (.optional (Requirements.shape face)) .nil)
    (fun (a, b, c, d, _) => ⟨a, b, c, d⟩)
    (fun s => (s.deploy, s.image, s.numWorkers, s.resources, ()))

/-- The controller of scheduled runs. -/
structure ScheduledWorkflow (face : Face := .hub) where
  deploy : Bool := false
  image : Option String := none
  cronScheduleTimezone : Option String := none
  resources : Option (Requirements face) := none
  deriving DecidableEq, Repr

/-- The shape of a scheduled workflow block. -/
def ScheduledWorkflow.shape (face : Face) : Shape (ScheduledWorkflow face) :=
  .struct "ScheduledWorkflow"
    (.cons face.deploy .flag <|
     .cons (face.optional "image" "image") (.optional .text) <|
     .cons (face.optional "cronScheduleTimezone" "cron_schedule_timezone"
      (some "Cron timezone used for scheduled runs. Default: UTC")) (.optional .text) <|
     .cons face.resources (.optional (Requirements.shape face)) .nil)
    (fun (a, b, c, d, _) => ⟨a, b, c, d⟩)
    (fun s => (s.deploy, s.image, s.cronScheduleTimezone, s.resources, ()))

/-- The web interface of pipelines. -/
structure UserInterface (face : Face := .hub) where
  deploy : Bool := false
  configMapName : Option String := none
  resources : Option (Requirements face) := none
  image : String := ""
  deriving DecidableEq, Repr

/-- The shape of a user interface block. -/
def UserInterface.shape (face : Face) : Shape (UserInterface face) :=
  .struct "MlPipelineUi"
    (.cons face.deploy .flag <|
     .cons (face.optional "configMap" "config_map_name") (.optional .text) <|
     .cons face.resources (.optional (Requirements.shape face)) <|
     .cons (face.defaulted "image" "image" "" (some "Image for the KFP UI pod. Required.")) .text
      .nil)
    (fun (a, b, c, d, _) => ⟨a, b, c, d⟩)
    (fun s => (s.deploy, s.configMapName, s.resources, s.image, ()))

/-- A database that the operator deploys. -/
structure MariaDb (face : Face := .hub) where
  deploy : Bool := false
  image : Option String := none
  username : Option String := none
  passwordSecret : Option (SecretKey face) := none
  dbName : Option String := none
  pvcSize : Option Quantity := none
  resources : Option (Requirements face) := none
  deriving DecidableEq, Repr

/-- The shape of a managed database block. -/
def MariaDb.shape (face : Face) : Shape (MariaDb face) :=
  .struct "MariaDb"
    (.cons face.deploy .flag <|
     .cons (face.optional "image" "image") (.optional .text) <|
     .cons (face.optional "username" "username"
      (some "The MariaDB user to create. Default: mlpipeline")) (.optional .text) <|
     .cons (face.optional "passwordSecret" "password_secret") (.optional (SecretKey.shape face)) <|
     .cons (face.optional "pipelineDBName" "db_name"
      (some "The database to create. Default: mlpipeline")) (.optional .text) <|
     .cons (face.optional "pvcSize" "pvc_size"
      (some "Size of the PVC created for MariaDB. Default: 10Gi")) (.optional .quantity) <|
     .cons face.resources (.optional (Requirements.shape face)) .nil)
    (fun (a, b, c, d, e, f, g, _) => ⟨a, b, c, d, e, f, g⟩)
    (fun s => (s.deploy, s.image, s.username, s.passwordSecret, s.dbName, s.pvcSize, s.resources,
      ()))

/-- A database that somebody else runs. -/
structure ExternalDatabase (face : Face := .hub) where
  host : String
  port : String
  username : String
  dbName : String
  passwordSecret : SecretKey face
  deriving DecidableEq, Repr

/-- The shape of an external database block. -/
def ExternalDatabase.shape (face : Face) : Shape (ExternalDatabase face) :=
  .struct "ExternalDb"
    (.cons (face.required "host" "host") .text <|
     .cons (face.required "port" "port") .text <|
     .cons (face.required "username" "username") .text <|
     .cons (face.required "pipelineDBName" "db_name") .text <|
     .cons (face.required "passwordSecret" "password_secret") (SecretKey.shape face) .nil)
    (fun (a, b, c, d, e, _) => ⟨a, b, c, d, e⟩)
    (fun s => (s.host, s.port, s.username, s.dbName, s.passwordSecret, ()))

/-- Object storage that the operator deploys. -/
structure Minio (face : Face := .hub) where
  deploy : Bool := false
  bucket : Option String := none
  credentials : Option (SecretKeyPair face) := none
  pvcSize : Option Quantity := none
  resources : Option (Requirements face) := none
  image : String := ""
  deriving DecidableEq, Repr

/-- The shape of a managed object storage block. -/
def Minio.shape (face : Face) : Shape (Minio face) :=
  .struct "Minio"
    (.cons face.deploy .flag <|
     .cons (face.optional "bucket" "bucket"
      (some "Bucket used to store artifacts. Default: mlpipeline")) (.optional .text) <|
     .cons (face.optional "s3CredentialsSecret" "s3_credential_secret"
      (some ("Credentials for the S3 user. The user needs permission to create the bucket\n" ++
        "if it does not exist."))) (.optional (SecretKeyPair.shape face)) <|
     .cons (face.optional "pvcSize" "pvc_size") (.optional .quantity) <|
     .cons face.resources (.optional (Requirements.shape face)) <|
     .cons (face.defaulted "image" "image" "" (some "Image for the Minio pod. Required.")) .text
      .nil)
    (fun (a, b, c, d, e, f, _) => ⟨a, b, c, d, e, f⟩)
    (fun s => (s.deploy, s.bucket, s.credentials, s.pvcSize, s.resources, s.image, ()))

/-- Object storage that somebody else runs. -/
structure ExternalStorage (face : Face := .hub) where
  host : String
  bucket : String
  scheme : String
  credentials : SecretKeyPair face
  secure : Option Bool
  port : String
  deriving DecidableEq, Repr

/-- The shape of an external object storage block. -/
def ExternalStorage.shape (face : Face) : Shape (ExternalStorage face) :=
  .struct "ExternalStorage"
    (.cons (face.required "host" "host") .text <|
     .cons (face.required "bucket" "bucket") .text <|
     .cons (face.required "scheme" "scheme") .text <|
     .cons (face.required "s3CredentialsSecret" "s3_credential_secret")
      (SecretKeyPair.shape face) <|
     .cons (face.optional "secure" "secure"
      (some "Use TLS. Inferred from the scheme when unset.")) (.optional .flag) <|
     .cons (face.defaulted "port" "port" "") .text .nil)
    (fun (a, b, c, d, e, f, _) => ⟨a, b, c, d, e, f⟩)
    (fun s => (s.host, s.bucket, s.scheme, s.credentials, s.secure, s.port, ()))

/-- A part of the metadata service. -/
structure MlmdPart (face : Face := .hub) where
  resources : Option (Requirements face) := none
  image : String := ""
  deriving DecidableEq, Repr

/-- The shape of a part of the metadata service. -/
def MlmdPart.shape (face : Face) : Shape (MlmdPart face) :=
  .struct "MlmdComponent"
    (.cons face.resources (.optional (Requirements.shape face)) <|
     .cons (face.defaulted "image" "image" "") .text .nil)
    (fun (a, b, _) => ⟨a, b⟩) (fun s => (s.resources, s.image, ()))

/-- The server of the metadata service. -/
structure MlmdGrpc (face : Face := .hub) where
  resources : Option (Requirements face) := none
  image : String := ""
  port : String := ""
  deriving DecidableEq, Repr

/-- The shape of the server of the metadata service. -/
def MlmdGrpc.shape (face : Face) : Shape (MlmdGrpc face) :=
  .struct "MlmdGrpc"
    (.cons face.resources (.optional (Requirements.shape face)) <|
     .cons (face.defaulted "image" "image" "") .text <|
     .cons (face.defaulted "port" "port" "") .text .nil)
    (fun (a, b, c, _) => ⟨a, b, c⟩) (fun s => (s.resources, s.image, s.port, ()))

/-- The metadata service. -/
structure Mlmd (face : Face := .hub) where
  deploy : Bool := false
  envoy : Option (MlmdPart face) := none
  grpc : Option (MlmdGrpc face) := none
  writer : Option (MlmdPart face) := none
  deriving DecidableEq, Repr

/-- The shape of a metadata service block. -/
def Mlmd.shape (face : Face) : Shape (Mlmd face) :=
  .struct "Mlmd"
    (.cons face.deploy .flag <|
     .cons (face.optional "envoy" "envoy") (.optional (MlmdPart.shape face)) <|
     .cons (face.optional "grpc" "grpc") (.optional (MlmdGrpc.shape face)) <|
     .cons (face.optional "writer" "writer") (.optional (MlmdPart.shape face)) .nil)
    (fun (a, b, c, d, _) => ⟨a, b, c, d⟩) (fun s => (s.deploy, s.envoy, s.grpc, s.writer, ()))

/-- A component of which only the image can be chosen. -/
structure ImageOnly (face : Face := .hub) where
  deploy : Bool := false
  image : Option String := none
  deriving DecidableEq, Repr

/-- The shape of a block with an image only. -/
def ImageOnly.shape (face : Face) : Shape (ImageOnly face) :=
  .struct "ImageOnlyComponent"
    (.cons face.deploy .flag <|
     .cons (face.optional "image" "image") (.optional .text) .nil)
    (fun (a, b, _) => ⟨a, b⟩) (fun s => (s.deploy, s.image, ()))

end PipelinesOperator
