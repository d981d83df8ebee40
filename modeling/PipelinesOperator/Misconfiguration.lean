/-!
# Misconfigurations

What can be wrong with an application or with the secrets that it names.  None of these goes
away by itself: trying again without a change by the user gives the same one.
-/

namespace PipelinesOperator

/-- A mistake that only the user can mend. -/
inductive Misconfiguration where
  /-- The application has no name or no namespace. -/
  | missingMetadata (field : String)
  /-- The second version of pipelines is asked for, with an engine that it does not have. -/
  | unsupportedEngineDriver (driver : String)
  /-- Neither external nor managed object storage is given. -/
  | missingObjectStorage
  /-- Managed object storage is given without an image. -/
  | missingMinioImage
  /-- A user interface is given without an image. -/
  | missingUiImage
  /-- A secret does not exist. -/
  | secretNotFound (name : String)
  /-- A secret lacks a field, or has it empty. -/
  | emptySecretField (name key : String)
  deriving DecidableEq, Repr

/-- The wording of a misconfiguration. -/
def Misconfiguration.message : Misconfiguration → String
  | .missingMetadata field => "missing object metadata: " ++ field
  | .unsupportedEngineDriver driver =>
    "illegal engine driver (" ++ driver ++ ") specified for pipelines v2, cannot continue"
  | .missingObjectStorage =>
    "either [spec.objectStorage.minio] or [spec.objectStorage.externalStorage] need to be " ++
      "specified in DSPA spec"
  | .missingMinioImage => "minio specified, but no image provided in the DSPA spec"
  | .missingUiImage => "mlPipelineUI specified, but no image provided in the DSPA spec"
  | .secretNotFound name =>
    "secret [" ++ name ++ "] was specified in the DSPA spec but does not exist"
  | .emptySecretField name key =>
    "credential from secret [" ++ name ++ "] for key [" ++ key ++
      "] was not successfully retrieved, ensure that the secret with this key exists"

end PipelinesOperator
