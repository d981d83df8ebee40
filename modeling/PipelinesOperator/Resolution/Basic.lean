import PipelinesOperator.Bytes.Blake3
import PipelinesOperator.Resolution.Plan

/-!
# Resolution

A resolution makes the plan of an application and then establishes its two credentials, the
database first.  What comes of it is the parameters, and beside them the secret material.
-/

namespace PipelinesOperator

/-- What comes of a resolution. -/
structure Resolution where
  parameters : Parameters
  family : Family
  password : Credential
  keys : Credential
  deriving DecidableEq, Repr

namespace Plan

/-- The resolution of a plan with both its credentials. -/
def complete (p : Plan) (password : Credential × Origin) (keys : Credential × Origin) :
    Resolution where
  parameters :=
    { name := p.name
      space := p.space
      dspVersion := p.dspVersion
      engineDriver := p.engineDriver
      apiServerServiceName := Names.apiServerService p.name
      oauthProxyImage := p.oauthProxyImage
      apiServer := p.apiServer
      persistenceAgent := p.persistenceAgent
      scheduledWorkflow := p.scheduledWorkflow
      userInterface := p.userInterface
      mlmd := p.mlmd
      crdViewer := p.crdViewer
      visualizationServer := p.visualizationServer
      workflowController := p.workflowController
      database :=
        { managed := p.database.managed
          connection :=
            { host := p.database.host
              port := p.database.port
              username := p.database.username
              dbName := p.database.dbName
              credentials := p.database.credentials
              operatorSecret := p.database.operatorSecret
              -- Only the origin enters the parameters; the credential itself stays beside them.
              passwordOrigin := password.2
              external := p.database.external
              disableHealthCheck := p.database.disableHealthCheck } }
      objectStorage :=
        { managed := p.objectStorage.managed
          connection :=
            { host := p.objectStorage.host
              port := p.objectStorage.port
              scheme := p.objectStorage.scheme
              bucket := p.objectStorage.bucket
              secure := p.objectStorage.secure
              endpoint :=
                endpoint p.objectStorage.scheme p.objectStorage.host p.objectStorage.port
              credentials := p.objectStorage.credentials
              operatorSecret := p.objectStorage.operatorSecret
              keysOrigin := keys.2
              external := p.objectStorage.external
              disableHealthCheck := p.objectStorage.disableHealthCheck } } }
  family := p.family
  password := password.1
  keys := keys.1

/-- Establishes both credentials of a plan, the database first. -/
def establish (p : Plan) (fresh : Material) :
    StoreDialogue (Except ResolutionError Resolution) :=
  (p.database.credentials.ensure fresh).thenTry fun password =>
    (p.objectStorage.credentials.ensure fresh).thenTry fun keys =>
      .done (.ok (p.complete password keys))

end Plan

namespace Application

/-- Resolves an application. -/
def resolve (r : Registry) (fresh : Material) (a : Application) :
    StoreDialogue (Except ResolutionError Resolution) :=
  .tellAll (a.defaultedBlocks.map (.defaultedBlock (a.metadata.name.getD ""))) <|
    match a.plan r with
    | .error e => .done (.error (.configuration e))
    | .ok p => p.establish fresh

end Application

namespace Parameters

/-- The hash of parameters. -/
def hash (p : Parameters) : String := Blake3.hexDigest p.canonicalText

end Parameters

end PipelinesOperator
