/-!
# Names and numbers that the operator chooses

What the operator makes for an application is named after it.  These are the names, the
ports and the sizes it takes where the user sets none.
-/

namespace PipelinesOperator.Names

/-- The name of the operator. -/
def operator : String := "data-science-pipelines-operator"

/-- The name under which the operator sets fields. -/
def fieldManager : String := "operator.datasciencepipelines.opendatahub.io"

/-- The label of what the operator makes. -/
def managedByLabel : String := "app.kubernetes.io/managed-by"

/-- The service of the API server of an application. -/
def apiServerService (name : String) : String := "ds-pipeline-" ++ name

/-- The secret that the operator makes for a database password. -/
def databaseSecret (name : String) : String := "ds-pipeline-db-" ++ name

/-- The secret that the operator makes for the keys of object storage. -/
def storageSecret (name : String) : String := "ds-pipeline-s3-" ++ name

/-- The config map with the script that archives artifacts. -/
def artifactScript (name : String) : String := "ds-pipeline-artifact-script-" ++ name

/-- The key of that script. -/
def artifactScriptKey : String := "artifact_script"

/-- The config map of the user interface. -/
def userInterfaceConfigMap (name : String) : String := "ds-pipeline-ui-configmap-" ++ name

/-- The field of a database password. -/
def passwordKey : String := "password"

/-- The field of an access key. -/
def accessKey : String := "accesskey"

/-- The field of the secret of an access key. -/
def secretKey : String := "secretkey"

/-- The host of a service that is made for an application. -/
def serviceHost (service name space : String) : String :=
  service ++ "-" ++ name ++ "." ++ space ++ ".svc.cluster.local"

/-- The service of a managed database. -/
def mariaDb : String := "mariadb"

/-- The port of a managed database. -/
def mariaDbPort : String := "3306"

/-- The service of managed object storage. -/
def minio : String := "minio"

/-- The port of managed object storage. -/
def minioPort : String := "9000"

/-- The scheme of managed object storage. -/
def minioScheme : String := "http"

/-- The user, the database and the bucket of managed services. -/
def pipelines : String := "mlpipeline"

/-- The size of the volumes of managed services. -/
def volumeSize : String := "10Gi"

/-- The port of the metadata service. -/
def mlmdPort : String := "8080"

/-- The state of a run that was stopped. -/
def terminateStatus : String := "Cancelled"

/-- The timezone of schedules. -/
def timezone : String := "UTC"

/-- The seconds for which a connection to the database is kept. -/
def connectionLifetime : Int32 := 120

/-- The number of workers of the persistence agent. -/
def numWorkers : Int32 := 2

/-- The number of bytes of a generated password. -/
def passwordLength : Nat := 12

/-- The number of bytes of a generated access key. -/
def accessKeyLength : Nat := 16

/-- The number of bytes of the secret of a generated access key. -/
def secretKeyLength : Nat := 24

end PipelinesOperator.Names
