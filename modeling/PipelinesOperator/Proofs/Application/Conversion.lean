import PipelinesOperator.Application.Manifest
import PipelinesOperator.Resolution.Basic

/-!
# What conversion keeps

The way back from the hub copies each member into the one of the wire that it stands for.  A block
of the wire that goes to the hub and back is the same block.  So is a manifest, but for what an
external database or object storage overrules: the managed block beside it is lost, and a database
that is not described at all comes back as one that is described by nothing.

## Main definitions

* `Application.toManifest`: the manifest that says what an application says, block by block
* `Manifest.normal`: a manifest without what is overruled

## Main results

* `Manifest.toManifest_toApplication`: an application tells its manifest, as far as it counts
* `Manifest.toApplication_eq_iff`: when two manifests are one application
-/

namespace PipelinesOperator

/-! ## Blocks -/

/-- A field of a secret, on the wire. -/
def SecretKey.toWire (s : SecretKey) : SecretKey .wire where
  name := s.name
  key := s.key

@[simp] theorem SecretKey.toWire_toHub (s : SecretKey .wire) : s.toHub.toWire = s := rfl

/-- The two fields of a secret, on the wire. -/
def SecretKeyPair.toWire (s : SecretKeyPair) : SecretKeyPair .wire where
  secretName := s.secretName
  accessKey := s.accessKey
  secretKey := s.secretKey

@[simp] theorem SecretKeyPair.toWire_toHub (s : SecretKeyPair .wire) : s.toHub.toWire = s := rfl

/-- An amount, on the wire. -/
def Resources.toWire (s : Resources) : Resources .wire where
  cpu := s.cpu
  memory := s.memory

@[simp] theorem Resources.toWire_toHub (s : Resources .wire) : s.toHub.toWire = s := rfl

/-- Requirements, on the wire. -/
def Requirements.toWire (s : Requirements) : Requirements .wire where
  limits := s.limits.map Resources.toWire
  requests := s.requests.map Resources.toWire

@[simp] theorem Requirements.toWire_toHub (s : Requirements .wire) : s.toHub.toWire = s := by
  simp [toHub, toWire, Function.comp_def]

/-- A key of a config map, on the wire. -/
def ScriptConfigMap.toWire (s : ScriptConfigMap) : ScriptConfigMap .wire where
  name := s.name
  key := s.key

@[simp] theorem ScriptConfigMap.toWire_toHub (s : ScriptConfigMap .wire) : s.toHub.toWire = s := rfl

/-- The block of the API server, on the wire. -/
def ApiServer.toWire (s : ApiServer) : ApiServer .wire where
  deploy := s.deploy
  image := s.image
  applyTektonCustomResource := s.applyTektonCustomResource
  archiveLogs := s.archiveLogs
  artifactImage := s.artifactImage
  cacheImage := s.cacheImage
  moveResultsImage := s.moveResultsImage
  artifactScriptConfigMap := s.artifactScriptConfigMap.map ScriptConfigMap.toWire
  injectDefaultScript := s.injectDefaultScript
  stripEof := s.stripEof
  terminateStatus := s.terminateStatus
  trackArtifacts := s.trackArtifacts
  dbConfigConMaxLifetimeSec := s.dbConfigConMaxLifetimeSec
  collectMetrics := s.collectMetrics
  enableRoute := s.enableRoute
  enableSamplePipeline := s.enableSamplePipeline
  autoUpdatePipelineDefaultVersion := s.autoUpdatePipelineDefaultVersion
  resources := s.resources.map Requirements.toWire

@[simp] theorem ApiServer.toWire_toHub (s : ApiServer .wire) : s.toHub.toWire = s := by
  simp [toHub, toWire, Function.comp_def]

/-- The block of the persistence agent, on the wire. -/
def PersistenceAgent.toWire (s : PersistenceAgent) : PersistenceAgent .wire where
  deploy := s.deploy
  image := s.image
  numWorkers := s.numWorkers
  resources := s.resources.map Requirements.toWire

@[simp] theorem PersistenceAgent.toWire_toHub (s : PersistenceAgent .wire) :
    s.toHub.toWire = s := by
  simp [toHub, toWire, Function.comp_def]

/-- The block of the controller of scheduled runs, on the wire. -/
def ScheduledWorkflow.toWire (s : ScheduledWorkflow) : ScheduledWorkflow .wire where
  deploy := s.deploy
  image := s.image
  cronScheduleTimezone := s.cronScheduleTimezone
  resources := s.resources.map Requirements.toWire

@[simp] theorem ScheduledWorkflow.toWire_toHub (s : ScheduledWorkflow .wire) :
    s.toHub.toWire = s := by
  simp [toHub, toWire, Function.comp_def]

/-- The block of the user interface, on the wire. -/
def UserInterface.toWire (s : UserInterface) : UserInterface .wire where
  deploy := s.deploy
  configMapName := s.configMapName
  resources := s.resources.map Requirements.toWire
  image := s.image

@[simp] theorem UserInterface.toWire_toHub (s : UserInterface .wire) : s.toHub.toWire = s := by
  simp [toHub, toWire, Function.comp_def]

/-- The block of a managed database, on the wire. -/
def MariaDb.toWire (s : MariaDb) : MariaDb .wire where
  deploy := s.deploy
  image := s.image
  username := s.username
  passwordSecret := s.passwordSecret.map SecretKey.toWire
  dbName := s.dbName
  pvcSize := s.pvcSize
  resources := s.resources.map Requirements.toWire

@[simp] theorem MariaDb.toWire_toHub (s : MariaDb .wire) : s.toHub.toWire = s := by
  simp [toHub, toWire, Function.comp_def]

/-- The block of an external database, on the wire. -/
def ExternalDatabase.toWire (s : ExternalDatabase) : ExternalDatabase .wire where
  host := s.host
  port := s.port
  username := s.username
  dbName := s.dbName
  passwordSecret := s.passwordSecret.toWire

@[simp] theorem ExternalDatabase.toWire_toHub (s : ExternalDatabase .wire) :
    s.toHub.toWire = s := by
  simp [toHub, toWire]

/-- The block of managed object storage, on the wire. -/
def Minio.toWire (s : Minio) : Minio .wire where
  deploy := s.deploy
  bucket := s.bucket
  credentials := s.credentials.map SecretKeyPair.toWire
  pvcSize := s.pvcSize
  resources := s.resources.map Requirements.toWire
  image := s.image

@[simp] theorem Minio.toWire_toHub (s : Minio .wire) : s.toHub.toWire = s := by
  simp [toHub, toWire, Function.comp_def]

/-- The block of external object storage, on the wire. -/
def ExternalStorage.toWire (s : ExternalStorage) : ExternalStorage .wire where
  host := s.host
  bucket := s.bucket
  scheme := s.scheme
  credentials := s.credentials.toWire
  secure := s.secure
  port := s.port

@[simp] theorem ExternalStorage.toWire_toHub (s : ExternalStorage .wire) : s.toHub.toWire = s := by
  simp [toHub, toWire]

/-- The block of a part of the metadata service, on the wire. -/
def MlmdPart.toWire (s : MlmdPart) : MlmdPart .wire where
  resources := s.resources.map Requirements.toWire
  image := s.image

@[simp] theorem MlmdPart.toWire_toHub (s : MlmdPart .wire) : s.toHub.toWire = s := by
  simp [toHub, toWire, Function.comp_def]

/-- The block of the server of the metadata service, on the wire. -/
def MlmdGrpc.toWire (s : MlmdGrpc) : MlmdGrpc .wire where
  resources := s.resources.map Requirements.toWire
  image := s.image
  port := s.port

@[simp] theorem MlmdGrpc.toWire_toHub (s : MlmdGrpc .wire) : s.toHub.toWire = s := by
  simp [toHub, toWire, Function.comp_def]

/-- The block of the metadata service, on the wire. -/
def Mlmd.toWire (s : Mlmd) : Mlmd .wire where
  deploy := s.deploy
  envoy := s.envoy.map MlmdPart.toWire
  grpc := s.grpc.map MlmdGrpc.toWire
  writer := s.writer.map MlmdPart.toWire

@[simp] theorem Mlmd.toWire_toHub (s : Mlmd .wire) : s.toHub.toWire = s := by
  simp [toHub, toWire, Function.comp_def]

/-- A block with an image only, on the wire. -/
def ImageOnly.toWire (s : ImageOnly) : ImageOnly .wire where
  deploy := s.deploy
  image := s.image

@[simp] theorem ImageOnly.toWire_toHub (s : ImageOnly .wire) : s.toHub.toWire = s := rfl

/-- The blocks that stand alike on both sides, on the wire. -/
def Components.toWire (c : Components) : Components .wire where
  apiServer := c.apiServer.map ApiServer.toWire
  persistenceAgent := c.persistenceAgent.map PersistenceAgent.toWire
  scheduledWorkflow := c.scheduledWorkflow.map ScheduledWorkflow.toWire
  userInterface := c.userInterface.map UserInterface.toWire
  mlmd := c.mlmd.map Mlmd.toWire
  crdViewer := c.crdViewer.map ImageOnly.toWire
  visualizationServer := c.visualizationServer.map ImageOnly.toWire
  workflowController := c.workflowController.map ImageOnly.toWire
  dspVersion := c.dspVersion
  engineDriver := c.engineDriver

@[simp] theorem Components.toWire_toHub (c : Components .wire) : c.toHub.toWire = c := by
  simp [toHub, toWire, Function.comp_def]

/-! ## Statuses -/

/-- A condition, on the wire. -/
def Condition.toWire (c : Condition) : Condition .wire where
  type := c.type
  status := c.status
  reason := c.reason
  message := c.message
  lastTransitionTime := c.lastTransitionTime

@[simp] theorem Condition.toWire_toHub (c : Condition .wire) : c.toHub.toWire = c := rfl

/-- A status, on the wire. -/
def Status.toWire (s : Status) : Status .wire where
  phase := s.phase
  conditions := s.conditions.map Condition.toWire
  parametersHash := s.parametersHash
  lastUpdated := s.lastUpdated

@[simp] theorem Status.toWire_toHub (s : Status .wire) : s.toHub.toWire = s := by
  simp [toHub, toWire, Function.comp_def]

@[simp] theorem Condition.toHub_toWire (c : Condition) : c.toWire.toHub = c := rfl

@[simp] theorem Status.toHub_toWire (s : Status) : s.toWire.toHub = s := by
  simp [toHub, toWire, Function.comp_def]

/-! ## Manifests -/

/-- The database of an application, as a manifest describes it. -/
def Database.toManifest (d : Database) : Manifest.Database :=
  match d.source with
  | .external e =>
    { managed := none, external := some e.toWire, disableHealthCheck := d.disableHealthCheck }
  | .managed block =>
    { managed := block.map MariaDb.toWire
      external := none
      disableHealthCheck := d.disableHealthCheck }

/-- The object storage of an application, as a manifest describes it. -/
def ObjectStorage.toManifest (o : ObjectStorage) : Manifest.ObjectStorage :=
  match o.source with
  | none => { managed := none, external := none, disableHealthCheck := o.disableHealthCheck }
  | some (.external e) =>
    { managed := none, external := some e.toWire, disableHealthCheck := o.disableHealthCheck }
  | some (.managed block) =>
    { managed := some block.toWire, external := none, disableHealthCheck := o.disableHealthCheck }

/-- The manifest that says what an application says. -/
def Application.toManifest (a : Application) : Manifest where
  metadata := a.metadata
  spec :=
    { components := a.spec.components.toWire
      database := some a.spec.database.toManifest
      objectStorage := a.spec.objectStorage.toManifest }
  status := a.status.map Status.toWire

namespace Manifest

/-- A database without a managed block that an external one overrules. -/
def Database.normal (d : Database) : Database :=
  { d with managed := if d.external.isSome then none else d.managed }

/-- Object storage without a managed block that an external one overrules. -/
def ObjectStorage.normal (o : ObjectStorage) : ObjectStorage :=
  { o with managed := if o.external.isSome then none else o.managed }

/-- A manifest without what is overruled, in which the database is described. -/
def normal (m : Manifest) : Manifest :=
  { m with
    spec :=
      { m.spec with
        database := some (m.spec.database.getD ⟨none, none, false⟩).normal
        objectStorage := m.spec.objectStorage.normal } }

theorem Database.toManifest_resolve (d : Database) : d.resolve.toManifest = d.normal := by
  obtain ⟨managed, external, disableHealthCheck⟩ := d
  cases external with
  | none => simp [resolve, normal, PipelinesOperator.Database.toManifest, Function.comp_def]
  | some e => simp [resolve, normal, PipelinesOperator.Database.toManifest]

theorem ObjectStorage.toManifest_resolve (o : ObjectStorage) : o.resolve.toManifest = o.normal := by
  obtain ⟨managed, external, disableHealthCheck⟩ := o
  cases external with
  | none => cases managed <;> simp [resolve, normal, PipelinesOperator.ObjectStorage.toManifest]
  | some e => simp [resolve, normal, PipelinesOperator.ObjectStorage.toManifest]

@[simp] theorem Database.resolve_normal (d : Database) : d.normal.resolve = d.resolve := by
  obtain ⟨managed, external, disableHealthCheck⟩ := d
  cases external with
  | none => rfl
  | some e => rfl

@[simp] theorem ObjectStorage.resolve_normal (o : ObjectStorage) :
    o.normal.resolve = o.resolve := by
  obtain ⟨managed, external, disableHealthCheck⟩ := o
  cases external with
  | none => rfl
  | some e => rfl

/-- What is overruled makes no difference to the application. -/
theorem toApplication_normal (m : Manifest) : m.normal.toApplication = m.toApplication := by
  simp [toApplication, normal]

/-- An application tells its manifest, as far as it counts. -/
theorem toManifest_toApplication (m : Manifest) : m.toApplication.toManifest = m.normal := by
  simp [toApplication, Application.toManifest, normal, Database.toManifest_resolve,
    ObjectStorage.toManifest_resolve, Function.comp_def]

/-- Two manifests are one application if they differ in nothing but what is overruled. -/
theorem toApplication_eq_iff {m m' : Manifest} :
    m.toApplication = m'.toApplication ↔ m.normal = m'.normal := by
  constructor
  · intro h
    rw [← toManifest_toApplication, ← toManifest_toApplication, h]
  · intro h
    rw [← toApplication_normal, ← toApplication_normal m', h]

/-- What an application says in every member gives back its manifest, without what an external
database or object storage overrules.  So manifests that differ in nothing else are one application,
which is resolved in one way, and all others are different applications. -/
theorem conversion_loses_overruled (m m' : Manifest) :
    m.toApplication.toManifest = m.normal ∧
    (m.toApplication = m'.toApplication ↔ m.normal = m'.normal) ∧
    (m.normal = m'.normal → ∀ r fresh,
      m.toApplication.resolve r fresh = m'.toApplication.resolve r fresh) := by
  refine ⟨toManifest_toApplication m, toApplication_eq_iff, ?_⟩
  intro h r fresh
  rw [toApplication_eq_iff.mpr h]

/-- A manifest that describes both kinds of database and of object storage, or the external ones
only. -/
def twofold (both : Bool) : Manifest where
  metadata := { name := some "sample", space := some "pipelines", uid := some "1" }
  spec :=
    { components :=
        { apiServer := some
            { deploy := true, resources := some { limits := some { cpu := some ⟨"1"⟩ } } }
          dspVersion := "v2"
          engineDriver := "argo" }
      database := some
        { managed := if both then some { deploy := true, image := some "mariadb:1" } else none
          external := some ⟨"db.example.com", "5432", "svc", "pipelines", ⟨"db", "pw"⟩⟩
          disableHealthCheck := true }
      objectStorage :=
        { managed := if both then some { deploy := true, image := "minio:1" } else none
          external := some
            ⟨"s3.example.com", "artifacts", "https", ⟨"s3", "ak", "sk"⟩, none, ""⟩ } }
  status := none

/-- The managed blocks make no difference where there are external ones. -/
theorem conversion_loses_overruled_twofold :
    (twofold true).normal = (twofold false).normal ∧
    (twofold true).toApplication.toManifest = (twofold true).normal ∧
    ((twofold true).toApplication = (twofold false).toApplication ↔
      (twofold true).normal = (twofold false).normal) ∧
    ∀ r fresh, (twofold true).toApplication.resolve r fresh =
      (twofold false).toApplication.resolve r fresh := by
  have h : (twofold true).normal = (twofold false).normal := rfl
  obtain ⟨htells, hiff, hresolve⟩ := conversion_loses_overruled (twofold true) (twofold false)
  exact ⟨h, htells, hiff, hresolve h⟩

end Manifest

end PipelinesOperator
