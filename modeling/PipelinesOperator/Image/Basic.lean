import PipelinesOperator.Misconfiguration

/-!
# Images and where they are configured

Every container has an image.  The images of nine components depend on the version of
pipelines: the first version has one set of them whatever the engine, the second a set for
each engine.  The other images stand in the set of the first version.

## Main definitions

* `Family.resolve`: the set that an application draws on
* `ImagePath.text`: the dotted path of an image in the configuration
-/

namespace PipelinesOperator

/-- The engine that runs the workflows of the second version of pipelines. -/
inductive EngineDriver where
  | argo
  | tekton
  deriving DecidableEq, Repr

namespace EngineDriver

/-- The name of an engine, as users write it. -/
def text : EngineDriver → String
  | .argo => "argo"
  | .tekton => "tekton"

/-- The engine of a name. -/
def ofText (name : String) : Except Misconfiguration EngineDriver :=
  if name = "argo" then .ok .argo
  else if name = "tekton" then .ok .tekton
  else .error (.unsupportedEngineDriver name)

end EngineDriver

/-- A set of images: that of the first version, or that of an engine in the second. -/
inductive Family where
  | legacy
  | v2 (driver : EngineDriver)
  deriving DecidableEq, Repr

namespace Family

/-- The set for a version and an engine.  Any version but `v2` is the first, and then nobody
looks at the engine. -/
def resolve (version driver : String) : Except Misconfiguration Family :=
  if version = "v2" then (EngineDriver.ofText driver).map .v2 else .ok .legacy

/-- The section of the configuration that holds a set. -/
def text : Family → String
  | .legacy => "images"
  | .v2 driver => "images_v2." ++ driver.text

end Family

/-- What an image is the image of. -/
inductive Image where
  | apiServer
  | artifact
  | cache
  | moveResults
  | persistenceAgent
  | scheduledWorkflow
  | mlmdEnvoy
  | mlmdGrpc
  | mlmdWriter
  | mariaDb
  | oauthProxy
  | crdViewer
  | visualizationServer
  | workflowController
  deriving DecidableEq, Repr

namespace Image

/-- The key of an image in its section. -/
def text : Image → String
  | .apiServer => "api_server"
  | .artifact => "artifact"
  | .cache => "cache"
  | .moveResults => "move_results_image"
  | .persistenceAgent => "persistent_agent"
  | .scheduledWorkflow => "scheduled_workflow"
  | .mlmdEnvoy => "mlmd_envoy"
  | .mlmdGrpc => "mlmd_grpc"
  | .mlmdWriter => "mlmd_writer"
  | .mariaDb => "mariadb"
  | .oauthProxy => "oauth_proxy"
  | .crdViewer => "crd_viewer"
  | .visualizationServer => "visualization_server"
  | .workflowController => "workflow_controller"

/-- The images that depend on the version of pipelines. -/
def versioned : List Image :=
  [.apiServer, .artifact, .cache, .moveResults, .persistenceAgent, .scheduledWorkflow,
    .mlmdEnvoy, .mlmdGrpc, .mlmdWriter]

/-- The images that do not. -/
def unversioned : List Image :=
  [.mariaDb, .oauthProxy, .crdViewer, .visualizationServer, .workflowController]

end Image

/-- Where an image is configured. -/
structure ImagePath where
  family : Family
  image : Image
  deriving DecidableEq, Repr

namespace ImagePath

/-- The dotted path. -/
def text (p : ImagePath) : String := p.family.text ++ "." ++ p.image.text

/-- Every path that the operator looks up. -/
def known : List ImagePath :=
  Image.versioned.map (⟨.legacy, ·⟩) ++ Image.versioned.map (⟨.v2 .argo, ·⟩) ++
    Image.versioned.map (⟨.v2 .tekton, ·⟩) ++ Image.unversioned.map (⟨.legacy, ·⟩)

/-- The paths without which the first version of pipelines cannot be deployed. -/
def needed : List ImagePath :=
  [.apiServer, .artifact, .persistenceAgent, .scheduledWorkflow, .cache, .moveResults,
    .mariaDb, .oauthProxy].map (⟨.legacy, ·⟩)

end ImagePath

end PipelinesOperator
