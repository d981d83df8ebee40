import PipelinesOperator.Image.Basic
import PipelinesOperator.Shape.Write

/-!
# The configuration of the operator

The configuration says how long to wait before an application is looked at again, and which
images to use where an application names none.
-/

namespace PipelinesOperator

/-- How many seconds pass before an application is looked at again, after a resolution and
after an error. -/
structure Intervals where
  requeue : UInt64
  errorRequeue : UInt64
  deriving DecidableEq, Repr

/-- The images of one section, each of which may be unset. -/
structure Images where
  apiServer : Option String := none
  artifact : Option String := none
  cache : Option String := none
  moveResults : Option String := none
  persistenceAgent : Option String := none
  scheduledWorkflow : Option String := none
  mlmdEnvoy : Option String := none
  mlmdGrpc : Option String := none
  mlmdWriter : Option String := none
  mariaDb : Option String := none
  oauthProxy : Option String := none
  crdViewer : Option String := none
  visualizationServer : Option String := none
  workflowController : Option String := none
  deriving DecidableEq, Repr

/-- The images of the second version of pipelines. -/
structure VersionedImages where
  argo : Images := {}
  tekton : Images := {}
  deriving DecidableEq, Repr

/-- The configuration. -/
structure Config where
  intervals : Intervals
  images : Images
  versioned : VersionedImages
  deriving DecidableEq, Repr

/-- The image of a section. -/
def Images.get (s : Images) : Image → Option String
  | .apiServer => s.apiServer
  | .artifact => s.artifact
  | .cache => s.cache
  | .moveResults => s.moveResults
  | .persistenceAgent => s.persistenceAgent
  | .scheduledWorkflow => s.scheduledWorkflow
  | .mlmdEnvoy => s.mlmdEnvoy
  | .mlmdGrpc => s.mlmdGrpc
  | .mlmdWriter => s.mlmdWriter
  | .mariaDb => s.mariaDb
  | .oauthProxy => s.oauthProxy
  | .crdViewer => s.crdViewer
  | .visualizationServer => s.visualizationServer
  | .workflowController => s.workflowController

namespace Config

/-- The images of a set. -/
def imagesOf (c : Config) : Family → Images
  | .legacy => c.images
  | .v2 .argo => c.versioned.argo
  | .v2 .tekton => c.versioned.tekton

/-- The intervals of a configuration that says nothing of them. -/
def defaultIntervals : Intervals := ⟨30, 30⟩

/-- The configuration without any layer. -/
def default : Config := ⟨defaultIntervals, {}, {}⟩

instance : Inhabited Config := ⟨default⟩

/-- The shape of intervals.  One that is left out of a section that is given is zero. -/
def intervalsShape : Shape Intervals :=
  .struct "ControllerConfig"
    (.cons (.defaulted "requeue_interval_secs" 0 none) .nat64 <|
     .cons (.defaulted "error_requeue_secs" 0 none) .nat64 .nil)
    (fun (a, b, _) => ⟨a, b⟩) (fun s => (s.requeue, s.errorRequeue, ()))

/-- The field of an image. -/
def imageField (image : Image) : Field (Option String) := .optional image.text none

/-- The shape of a section of images. -/
def imagesShape : Shape Images :=
  .struct "ImageConfig"
    (.cons (imageField .apiServer) (.optional .text) <|
     .cons (imageField .artifact) (.optional .text) <|
     .cons (imageField .cache) (.optional .text) <|
     .cons (imageField .moveResults) (.optional .text) <|
     .cons (imageField .persistenceAgent) (.optional .text) <|
     .cons (imageField .scheduledWorkflow) (.optional .text) <|
     .cons (imageField .mlmdEnvoy) (.optional .text) <|
     .cons (imageField .mlmdGrpc) (.optional .text) <|
     .cons (imageField .mlmdWriter) (.optional .text) <|
     .cons (imageField .mariaDb) (.optional .text) <|
     .cons (imageField .oauthProxy) (.optional .text) <|
     .cons (imageField .crdViewer) (.optional .text) <|
     .cons (imageField .visualizationServer) (.optional .text) <|
     .cons (imageField .workflowController) (.optional .text) .nil)
    (fun (a, b, c, d, e, f, g, h, i, j, k, l, m, n, _) => ⟨a, b, c, d, e, f, g, h, i, j, k, l, m, n⟩)
    (fun s => (s.apiServer, s.artifact, s.cache, s.moveResults, s.persistenceAgent,
      s.scheduledWorkflow, s.mlmdEnvoy, s.mlmdGrpc, s.mlmdWriter, s.mariaDb, s.oauthProxy,
      s.crdViewer, s.visualizationServer, s.workflowController, ()))

/-- The shape of the images of the second version. -/
def versionedShape : Shape VersionedImages :=
  .struct "ImagesV2Config"
    (.cons (.defaulted "argo" {} none) imagesShape <|
     .cons (.defaulted "tekton" {} none) imagesShape .nil)
    (fun (a, b, _) => ⟨a, b⟩) (fun s => (s.argo, s.tekton, ()))

/-- The shape of a configuration. -/
def shape : Shape Config :=
  .struct "AppConfig"
    (.cons (.defaulted "controller" defaultIntervals none) intervalsShape <|
     .cons (.defaulted "images" {} none) imagesShape <|
     .cons (.defaulted "images_v2" {} none) versionedShape .nil)
    (fun (a, b, c, _) => ⟨a, b, c⟩) (fun s => (s.intervals, s.images, s.versioned, ()))

end Config

end PipelinesOperator
