import PipelinesOperator.Resolution.Basic
import PipelinesOperator.Text.Quoted

/-!
# How a resolution is shown

A log or a failed test shows a resolution with all its records and fields by name, texts between
quotes.  Nothing is left out but the secret material, of which only the number of pieces shows.

## Main definitions

* `Debug.record`: a record with its fields
* `Resolution.debugText`: a resolution as it is shown
-/

namespace PipelinesOperator

namespace Debug

/-- A record with its fields. -/
def record (name : String) (fields : List (String × String)) : String :=
  name ++ " \x7b " ++ Text.join ", " (fields.map fun f => f.1 ++ ": " ++ f.2) ++ " \x7d"

/-- A value that may be absent. -/
def optional {α : Type} (text : α → String) : Option α → String
  | none => "None"
  | some a => "Some(" ++ text a ++ ")"

/-- A truth value. -/
def flag (b : Bool) : String := if b then "true" else "false"

end Debug

open Debug

/-- A quantity as it is shown. -/
def Quantity.debugText (q : Quantity) : String := "Quantity(" ++ Text.quoted q.text ++ ")"

/-- An amount as it is shown. -/
def Resources.debugText (r : Resources) : String :=
  record "Resources"
    [("cpu", optional Quantity.debugText r.cpu), ("memory", optional Quantity.debugText r.memory)]

/-- Requirements as they are shown. -/
def Requirements.debugText (r : Requirements) : String :=
  record "ResourceRequirements"
    [("limits", optional Resources.debugText r.limits),
      ("requests", optional Resources.debugText r.requests)]

/-- The key of a config map as it is shown. -/
def ScriptConfigMap.debugText (s : ScriptConfigMap) : String :=
  record "ArtifactScriptConfigMap" [("name", Text.quoted s.name), ("key", Text.quoted s.key)]

/-- A set of images as it is shown. -/
def Family.debugText : Family → String
  | .legacy => "Legacy"
  | .v2 .argo => "V2Argo"
  | .v2 .tekton => "V2Tekton"

/-- The origin of a credential as it is shown. -/
def Origin.debugText : Origin → String
  | .existing => "Existing"
  | .created => "Created"
  | .adopted => "Adopted"

/-- Who answers for a secret, as it is shown. -/
def Ownership.debugText : Ownership → String
  | .user => "UserOwned"
  | .operator => "OperatorOwned"

/-- What a credential is for, as it is shown. -/
def CredentialKind.debugText : CredentialKind → String
  | .databasePassword => "DatabasePassword"
  | .storageKeys => "ObjectStorageKeys"

/-- A reference as it is shown. -/
def CredentialReference.debugText (r : CredentialReference) : String :=
  record "CredentialReference"
    [("namespace", Text.quoted r.space), ("name", Text.quoted r.name),
      ("primary_key", Text.quoted r.primaryKey),
      ("secondary_key", optional Text.quoted r.secondaryKey),
      ("ownership", r.ownership.debugText), ("kind", r.kind.debugText)]

namespace Parameters

/-- The parameters of the API server as they are shown. -/
def ApiServer.debugText (s : ApiServer) : String :=
  record "ApiServerParams"
    [("deploy", flag s.deploy), ("image", Text.quoted s.image),
      ("artifact_image", Text.quoted s.artifactImage), ("cache_image", Text.quoted s.cacheImage),
      ("move_results_image", Text.quoted s.moveResultsImage),
      ("artifact_script_config_map", s.artifactScriptConfigMap.debugText),
      ("apply_tekton_custom_resource", flag s.applyTektonCustomResource),
      ("archive_logs", flag s.archiveLogs),
      ("inject_default_script", flag s.injectDefaultScript), ("strip_eof", flag s.stripEof),
      ("terminate_status", Text.quoted s.terminateStatus),
      ("track_artifacts", flag s.trackArtifacts),
      ("db_config_con_max_lifetime_sec", toString s.dbConfigConMaxLifetimeSec),
      ("collect_metrics", flag s.collectMetrics), ("enable_route", flag s.enableRoute),
      ("enable_sample_pipeline", flag s.enableSamplePipeline),
      ("auto_update_pipeline_default_version", flag s.autoUpdatePipelineDefaultVersion),
      ("resources", s.resources.debugText)]

/-- The parameters of the persistence agent as they are shown. -/
def PersistenceAgent.debugText (s : PersistenceAgent) : String :=
  record "PersistenceAgentParams"
    [("deploy", flag s.deploy), ("image", Text.quoted s.image),
      ("num_workers", toString s.numWorkers), ("resources", s.resources.debugText)]

/-- The parameters of the controller of scheduled runs as they are shown. -/
def ScheduledWorkflow.debugText (s : ScheduledWorkflow) : String :=
  record "ScheduledWorkflowParams"
    [("deploy", flag s.deploy), ("image", Text.quoted s.image),
      ("cron_schedule_timezone", Text.quoted s.cronScheduleTimezone),
      ("resources", s.resources.debugText)]

/-- The parameters of the user interface as they are shown. -/
def UserInterface.debugText (s : UserInterface) : String :=
  record "UiParams"
    [("deploy", flag s.deploy), ("image", Text.quoted s.image),
      ("config_map_name", Text.quoted s.configMapName), ("resources", s.resources.debugText)]

/-- The parameters of a part of the metadata service as they are shown. -/
def MlmdPart.debugText (s : MlmdPart) : String :=
  record "MlmdComponentParams"
    [("image", Text.quoted s.image), ("resources", s.resources.debugText)]

/-- The parameters of the server of the metadata service as they are shown. -/
def MlmdGrpc.debugText (s : MlmdGrpc) : String :=
  record "MlmdGrpcParams"
    [("image", Text.quoted s.image), ("port", Text.quoted s.port),
      ("resources", s.resources.debugText)]

/-- The parameters of the metadata service as they are shown. -/
def Mlmd.debugText (s : Mlmd) : String :=
  record "MlmdParams"
    [("deploy", flag s.deploy), ("envoy", s.envoy.debugText), ("grpc", s.grpc.debugText),
      ("writer", s.writer.debugText)]

/-- The parameters of a component with an image only, as they are shown. -/
def ImageOnly.debugText (s : ImageOnly) : String :=
  record "ImageOnlyParams" [("deploy", flag s.deploy), ("image", Text.quoted s.image)]

/-- The parameters of a managed database as they are shown. -/
def MariaDb.debugText (s : MariaDb) : String :=
  record "MariaDbParams"
    [("deploy", flag s.deploy), ("image", Text.quoted s.image),
      ("username", Text.quoted s.username), ("db_name", Text.quoted s.dbName),
      ("pvc_size", s.pvcSize.debugText), ("resources", s.resources.debugText)]

/-- A connection to a database as it is shown, with its password redacted. -/
def DatabaseConnection.debugText (s : DatabaseConnection) (password : Credential) : String :=
  record "DbConnection"
    [("host", Text.quoted s.host), ("port", Text.quoted s.port),
      ("username", Text.quoted s.username), ("db_name", Text.quoted s.dbName),
      ("credentials", s.credentials.debugText), ("operator_secret", s.operatorSecret.debugText),
      ("password", password.redacted), ("password_origin", s.passwordOrigin.debugText),
      ("external", flag s.external), ("disable_health_check", flag s.disableHealthCheck)]

/-- The parameters of a database as they are shown. -/
def Database.debugText (s : Database) (password : Credential) : String :=
  record "DatabaseParams"
    [("managed", optional MariaDb.debugText s.managed),
      ("connection", s.connection.debugText password)]

/-- The parameters of managed object storage as they are shown. -/
def Minio.debugText (s : Minio) : String :=
  record "MinioParams"
    [("deploy", flag s.deploy), ("image", Text.quoted s.image), ("bucket", Text.quoted s.bucket),
      ("pvc_size", s.pvcSize.debugText), ("resources", s.resources.debugText)]

/-- A connection to object storage as it is shown, with its keys redacted. -/
def StorageConnection.debugText (s : StorageConnection) (keys : Credential) : String :=
  record "ObjectStorageConnection"
    [("host", Text.quoted s.host), ("port", Text.quoted s.port),
      ("scheme", Text.quoted s.scheme), ("bucket", Text.quoted s.bucket),
      ("secure", flag s.secure), ("endpoint", Text.quoted s.endpoint),
      ("credentials", s.credentials.debugText), ("operator_secret", s.operatorSecret.debugText),
      ("keys", keys.redacted), ("keys_origin", s.keysOrigin.debugText),
      ("external", flag s.external), ("disable_health_check", flag s.disableHealthCheck)]

/-- The parameters of object storage as they are shown. -/
def ObjectStorage.debugText (s : ObjectStorage) (keys : Credential) : String :=
  record "ObjectStorageParams"
    [("managed", optional Minio.debugText s.managed), ("connection", s.connection.debugText keys)]

end Parameters

/-- A resolution as it is shown. -/
def Resolution.debugText (x : Resolution) : String :=
  let p := x.parameters
  record "DspaParams"
    [("name", Text.quoted p.name), ("namespace", Text.quoted p.space),
      ("dsp_version", Text.quoted p.dspVersion), ("engine_driver", Text.quoted p.engineDriver),
      ("image_family", x.family.debugText),
      ("api_server_service_name", Text.quoted p.apiServerServiceName),
      ("oauth_proxy_image", Text.quoted p.oauthProxyImage), ("api_server", p.apiServer.debugText),
      ("persistence_agent", p.persistenceAgent.debugText),
      ("scheduled_workflow", p.scheduledWorkflow.debugText),
      ("ml_pipeline_ui", optional Parameters.UserInterface.debugText p.userInterface),
      ("mlmd", optional Parameters.Mlmd.debugText p.mlmd),
      ("crd_viewer", p.crdViewer.debugText),
      ("visualization_server", p.visualizationServer.debugText),
      ("workflow_controller", p.workflowController.debugText),
      ("database", p.database.debugText x.password),
      ("object_storage", p.objectStorage.debugText x.keys)]

end PipelinesOperator
