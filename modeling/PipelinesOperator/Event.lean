/-!
# Events

What the operator tells about its work, one record for each thing that happened.  No event
holds secret material.
-/

namespace PipelinesOperator

/-- How much an event matters. -/
inductive Level where
  | trace
  | debug
  | info
  | warn
  | error
  deriving DecidableEq, Repr

namespace Level

/-- The name of a level. -/
def text : Level → String
  | .trace => "TRACE"
  | .debug => "DEBUG"
  | .info => "INFO"
  | .warn => "WARN"
  | .error => "ERROR"

/-- The rank of a level, greater for what matters more. -/
def rank : Level → Nat
  | .trace => 1
  | .debug => 2
  | .info => 3
  | .warn => 4
  | .error => 5

end Level

/-- Something that happened. -/
inductive Event where
  /-- A block was absent and the operator filled it in. -/
  | defaultedBlock (application block : String)
  /-- Fresh material was made for a secret. -/
  | generatedCredential (secret space : String)
  /-- A secret was stored. -/
  | createdSecret (secret space : String)
  /-- Somebody else stored a secret first, and theirs is used. -/
  | adoptedSecret (secret space : String)
  /-- A resolution stored a secret. -/
  | secretCreated (application space secret : String)
  /-- A resolution succeeded. -/
  | resolvedParameters (application space hash : String)
  /-- A resolution met a misconfiguration. -/
  | resolutionFailed (application space error : String)
  /-- A status is about to be written. -/
  | updatingStatus (application phase : String)
  /-- Something failed. -/
  | failed (error : String)
  /-- The operator starts. -/
  | starting (version : String)
  /-- An image that is needed has no default. -/
  | missingDefault (path : String)
  deriving DecidableEq, Repr

namespace Event

/-- How much an event matters. -/
def level : Event → Level
  | .defaultedBlock .. => .debug
  | .generatedCredential .. => .debug
  | .createdSecret .. => .info
  | .adoptedSecret .. => .info
  | .secretCreated .. => .info
  | .resolvedParameters .. => .info
  | .resolutionFailed .. => .warn
  | .updatingStatus .. => .info
  | .failed .. => .error
  | .starting .. => .info
  | .missingDefault .. => .warn

/-- The fields of the record of an event. -/
def fields : Event → List (String × String)
  | .defaultedBlock application block =>
    [("event", "DefaultedBlock"), ("dspa", application), ("block", block)]
  | .generatedCredential secret space =>
    [("event", "GeneratedCredential"), ("secret", secret), ("namespace", space)]
  | .createdSecret secret space =>
    [("event", "CreatedSecret"), ("secret", secret), ("namespace", space)]
  | .adoptedSecret secret space =>
    [("event", "AdoptedSecret"), ("secret", secret), ("namespace", space)]
  | .secretCreated application space secret =>
    [("event", "SecretCreated"), ("dspa", application), ("namespace", space), ("secret", secret)]
  | .resolvedParameters application space hash =>
    [("event", "ResolvedParameters"), ("dspa", application), ("namespace", space),
      ("hash", hash)]
  | .resolutionFailed application space error =>
    [("event", "ResolutionFailed"), ("dspa", application), ("namespace", space),
      ("error", error)]
  | .updatingStatus application phase =>
    [("event", "UpdatingDspaStatus"), ("dspa", application), ("phase", phase)]
  | .failed error => [("event", "Error"), ("error", error)]
  | .starting version => [("event", "Starting"), ("version", version)]
  | .missingDefault path => [("event", "MissingDefault"), ("path", path)]

end Event

end PipelinesOperator
