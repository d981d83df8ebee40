import PipelinesOperator.Text.Quoted

/-!
# Faults of the cluster

What can go wrong between the operator and the API server.  Such a fault may go away by
itself, so the operator tries again.
-/

namespace PipelinesOperator

/-- An error that the API server reports. -/
structure ApiError where
  status : String
  message : String
  reason : String
  code : UInt16
  deriving DecidableEq, Repr

/-- Why a request got no usable answer. -/
inductive ClusterFault where
  /-- The server reports an error. -/
  | api (error : ApiError)
  /-- The server could not be reached. -/
  | service (message : String)
  /-- The answer of the server does not read as what it should be. -/
  | undecodable (message : String)
  /-- The request would have a path that cannot be written. -/
  | badPath
  /-- The request would name nothing. -/
  | emptyName
  deriving DecidableEq, Repr

namespace ApiError

/-- The wording of an error that the server reports. -/
def text (e : ApiError) : String :=
  "ApiError: " ++ e.message ++ ": " ++ e.reason ++ " (ErrorResponse \x7b status: " ++
    Text.quoted e.status ++ ", message: " ++ Text.quoted e.message ++ ", reason: " ++
    Text.quoted e.reason ++ ", code: " ++ toString e.code ++ " \x7d)"

end ApiError

/-- The wording of a fault. -/
def ClusterFault.message : ClusterFault → String
  | .api error => error.text
  | .service message => "ServiceError: " ++ message
  | .undecodable message => "Error deserializing response: " ++ message
  | .badPath => "Failed to build request: failed to build request: invalid uri character"
  | .emptyName =>
    "Failed to build request: failed to validate request: A non-empty name is required"

end PipelinesOperator
