import PipelinesOperator.Proofs.Config.Registry
import PipelinesOperator.Proofs.Race.Play
import PipelinesOperator.Proofs.Resolution.Choice
import PipelinesOperator.Proofs.Resolution.Course

/-!
# Which images are used

Of every image the user has the first word and the configuration the second.  Which section of the
configuration speaks depends on the version of pipelines and on the engine, but only for nine of the
images; the other ones stand in the section of the first version.  If neither says anything, the
sentinel is used.  The images of the user interface and of managed object storage are the user's
alone.

## Main definitions

* `chosenImage`: the user's image, or the one that is configured, or the sentinel
* `Config.SectionFor`: the section that speaks for an application
* `Parameters.ImagesFrom`: the images of all components, told from two sections
* `Registry.AgreeFor`: registries with the same images for one set

## Main results

* `Registry.imageAt_ofConfig`: an image that is looked up in the registry of a configuration
* `Application.imagesFrom_of_plan`: the images of a plan
* `Application.plan_congr`: registries that agree make one plan
* `Application.images_follow_configuration`: the images of a resolution, and that nothing else in
  the configuration matters to it
-/

namespace PipelinesOperator

/-- The user's image, or the one that is configured, or the sentinel.  An empty image is none. -/
def chosenImage (user configured : Option String) : String :=
  ((nonEmpty user).or (nonEmpty configured)).getD Registry.unset

/-- An image that is looked up in the registry of a configuration. -/
theorem Registry.imageAt_ofConfig (c : Config) (user : Option String) (p : ImagePath) :
    (ofConfig c).imageAt user p = chosenImage user ((c.imagesOf p.family).get p.image) := by
  rw [imageAt, lookup, get?_ofConfig, chosenImage]
  cases nonEmpty user with
  | none => rfl
  | some image => rfl

/-- The section of a configuration that speaks for the versioned images of an application. -/
inductive Config.SectionFor (c : Config) (components : Components) : Images → Prop where
  | first (version : components.dspVersion ≠ "v2") : c.SectionFor components c.images
  | argo (version : components.dspVersion = "v2") (driver : components.engineDriver = "argo") :
      c.SectionFor components c.versioned.argo
  | tekton (version : components.dspVersion = "v2")
      (driver : components.engineDriver = "tekton") : c.SectionFor components c.versioned.tekton

/-- Every image of the parameters is the user's or that of a section, a versioned one that of the
first section and any other that of the second. -/
structure Parameters.ImagesFrom (q : Parameters) (a : Application) (versioned legacy : Images) :
    Prop where
  apiServer : q.apiServer.image =
    chosenImage (a.spec.components.apiServer.bind (·.image)) versioned.apiServer
  artifact : q.apiServer.artifactImage =
    chosenImage (a.spec.components.apiServer.bind (·.artifactImage)) versioned.artifact
  cache : q.apiServer.cacheImage =
    chosenImage (a.spec.components.apiServer.bind (·.cacheImage)) versioned.cache
  moveResults : q.apiServer.moveResultsImage =
    chosenImage (a.spec.components.apiServer.bind (·.moveResultsImage)) versioned.moveResults
  persistenceAgent : q.persistenceAgent.image =
    chosenImage (a.spec.components.persistenceAgent.bind (·.image)) versioned.persistenceAgent
  scheduledWorkflow : q.scheduledWorkflow.image =
    chosenImage (a.spec.components.scheduledWorkflow.bind (·.image)) versioned.scheduledWorkflow
  mlmd : q.mlmd.map (fun m => (m.envoy.image, m.grpc.image, m.writer.image)) =
    a.spec.components.mlmd.map fun block =>
      (chosenImage (block.envoy.map (·.image)) versioned.mlmdEnvoy,
        chosenImage (block.grpc.map (·.image)) versioned.mlmdGrpc,
        chosenImage (block.writer.map (·.image)) versioned.mlmdWriter)
  crdViewer : q.crdViewer.image =
    chosenImage (a.spec.components.crdViewer.bind (·.image)) legacy.crdViewer
  visualizationServer : q.visualizationServer.image =
    chosenImage (a.spec.components.visualizationServer.bind (·.image)) legacy.visualizationServer
  workflowController : q.workflowController.image =
    chosenImage (a.spec.components.workflowController.bind (·.image)) legacy.workflowController
  mariaDb : q.database.managed.map (·.image) =
    match a.spec.database.source with
    | .managed block => some (chosenImage (block.bind (·.image)) legacy.mariaDb)
    | .external _ => none
  oauthProxy : q.oauthProxyImage = chosenImage none legacy.oauthProxy
  userInterface : q.userInterface.map (·.image) =
    a.spec.components.userInterface.map (·.image)
  minio : q.objectStorage.managed.map (·.image) =
    match a.spec.objectStorage.source with
    | some (.managed block) => some block.image
    | _ => none

/-! ## The section that speaks -/

theorem EngineDriver.ofText_eq_ok {name : String} {driver : EngineDriver} :
    ofText name = .ok driver ↔ name = driver.text := by
  rw [ofText]
  by_cases hargo : name = "argo"
  · cases driver <;> simp [hargo, text]
  · by_cases htekton : name = "tekton"
    · cases driver <;> simp [htekton, text]
    · cases driver <;> simp [hargo, htekton, text]

/-- A section speaks for an application exactly if it is that of its set of images.  The first
version does not look at the driver; the second has a section for each. -/
theorem Config.sectionFor_iff {c : Config} {components : Components} {s : Images} :
    c.SectionFor components s ↔ ∃ family,
      Family.resolve components.dspVersion components.engineDriver = .ok family ∧
        c.imagesOf family = s := by
  constructor
  · intro h
    cases h with
    | first version => exact ⟨.legacy, if_neg version, rfl⟩
    | argo version driver =>
      exact ⟨.v2 .argo, by rw [Family.resolve, if_pos version, driver]; rfl, rfl⟩
    | tekton version driver =>
      exact ⟨.v2 .tekton, by rw [Family.resolve, if_pos version, driver]; rfl, rfl⟩
  · rintro ⟨family, h, rfl⟩
    rw [Family.resolve] at h
    split at h
    · rename_i version
      obtain ⟨driver, hdriver, rfl⟩ := Except.map_eq_ok.mp h
      have hname := EngineDriver.ofText_eq_ok.mp hdriver
      cases driver with
      | argo => exact .argo version hname
      | tekton => exact .tekton version hname
    · rename_i version
      obtain rfl := Except.ok.inj h
      exact .first version

/-! ## What a plan says of images -/

namespace Registry

variable {β : Type} (c : Config) {default : β} (block : Option β) (p : ImagePath)

/-- The image of a component whose block need not be there, nor say anything of the image. -/
theorem imageAt_block (image : β → Option String) (h : image default = none) :
    (ofConfig c).imageAt (image (block.getD default)) p =
      chosenImage (block.bind image) ((c.imagesOf p.family).get p.image) := by
  rw [imageAt_ofConfig]
  cases block with
  | none =>
    rw [Option.getD_none, h]
    rfl
  | some s => rfl

/-- The image of a part whose block need not be there, and has an empty image if it says nothing. -/
theorem imageAt_part (image : β → String) (h : image default = "") :
    (ofConfig c).imageAt (some (image (block.getD default))) p =
      chosenImage (block.map image) ((c.imagesOf p.family).get p.image) := by
  rw [imageAt_ofConfig]
  cases block with
  | none =>
    rw [Option.getD_none, h]
    rfl
  | some s => rfl

end Registry

namespace Plan

/-- A managed database has an image, and an external one has none. -/
theorem databaseOf_image (c : Config) (name space : String) (d : Database) :
    (databaseOf (.ofConfig c) name space d).managed.map (·.image) =
      match d.source with
      | .managed block => some (chosenImage (block.bind (·.image)) c.images.mariaDb)
      | .external _ => none := by
  rw [databaseOf]
  cases d.source with
  | external e => rfl
  | managed block =>
    exact congrArg some (Registry.imageAt_block c block ⟨.legacy, .mariaDb⟩ MariaDb.image rfl)

/-- Managed object storage has the image of its block, and external storage has none. -/
theorem storageOf_image {name space : String} {o : ObjectStorage} {s : StoragePlan}
    (h : storageOf name space o = .ok s) : s.managed.map (·.image) =
      match o.source with
      | some (.managed block) => some block.image
      | _ => none := by
  rcases storageOf_eq_ok.mp h with ⟨e, he, rfl⟩ | ⟨b, hb, -, rfl⟩
  · rw [he]
    rfl
  · rw [hb]
    rfl

end Plan

/-! ## Registries that agree -/

/-- Two registries that have the same for the versioned images of one set, and for the other images,
whatever else they have. -/
structure Registry.AgreeFor (r : Registry) (family : Family) (r' : Registry) : Prop where
  versioned : ∀ image ∈ Image.versioned,
    r.lookup (ImagePath.mk family image).text = r'.lookup (ImagePath.mk family image).text
  unversioned : ∀ image ∈ Image.unversioned,
    r.lookup (ImagePath.mk .legacy image).text = r'.lookup (ImagePath.mk .legacy image).text

namespace Registry.AgreeFor

variable {r r' : Registry} {family : Family} (h : r.AgreeFor family r')
include h

theorem imageAt (user : Option String) (image : Image) (himage : image ∈ Image.versioned) :
    r.imageAt user ⟨family, image⟩ = r'.imageAt user ⟨family, image⟩ :=
  congrArg (nonEmpty user).getD (h.versioned image himage)

theorem imageAt_legacy (user : Option String) (image : Image)
    (himage : image ∈ Image.unversioned) :
    r.imageAt user ⟨.legacy, image⟩ = r'.imageAt user ⟨.legacy, image⟩ :=
  congrArg (nonEmpty user).getD (h.unversioned image himage)

theorem apiServerOf : Plan.apiServerOf r family = Plan.apiServerOf r' family := by
  funext name block
  simp only [Plan.apiServerOf, h.imageAt _ .apiServer (by decide),
    h.imageAt _ .artifact (by decide), h.imageAt _ .cache (by decide),
    h.imageAt _ .moveResults (by decide)]

theorem persistenceAgentOf :
    Plan.persistenceAgentOf r family = Plan.persistenceAgentOf r' family := by
  funext block
  simp only [Plan.persistenceAgentOf, h.imageAt _ .persistenceAgent (by decide)]

theorem scheduledWorkflowOf :
    Plan.scheduledWorkflowOf r family = Plan.scheduledWorkflowOf r' family := by
  funext block
  simp only [Plan.scheduledWorkflowOf, h.imageAt _ .scheduledWorkflow (by decide)]

theorem mlmdOf : Plan.mlmdOf r family = Plan.mlmdOf r' family := by
  funext block
  simp only [Plan.mlmdOf, h.imageAt _ .mlmdEnvoy (by decide), h.imageAt _ .mlmdGrpc (by decide),
    h.imageAt _ .mlmdWriter (by decide)]

theorem imageOnlyOf (image : Image) (himage : image ∈ Image.unversioned) :
    Plan.imageOnlyOf r image = Plan.imageOnlyOf r' image := by
  funext block
  simp only [Plan.imageOnlyOf, h.imageAt_legacy _ image himage]

theorem databaseOf : Plan.databaseOf r = Plan.databaseOf r' := by
  funext name space d
  simp only [Plan.databaseOf, h.imageAt_legacy _ .mariaDb (by decide)]

end Registry.AgreeFor

namespace Application

variable {r r' : Registry} {a : Application}

/-- The user interface has the image of its block. -/
theorem userInterfacePlan_image {name : String} {u : Option Parameters.UserInterface}
    (h : a.userInterfacePlan name = .ok u) :
    u.map (·.image) = a.spec.components.userInterface.map (·.image) := by
  rw [userInterfacePlan] at h
  split at h
  · rename_i hblock
    obtain rfl := Except.ok.inj h
    rw [hblock]
    rfl
  · rename_i block hblock
    obtain ⟨q, hq, rfl⟩ := Except.map_eq_ok.mp h
    obtain ⟨-, rfl⟩ := Plan.userInterfaceOf_eq_ok.mp hq
    rw [hblock]
    rfl

/-- The images of a plan that is made from a configuration. -/
theorem imagesFrom_of_plan {c : Config} {p : Plan} (h : a.plan (.ofConfig c) = .ok p)
    (password keys : Credential × Origin) :
    (p.complete password keys).parameters.ImagesFrom a (c.imagesOf p.family) c.images := by
  obtain ⟨⟨name, space, family⟩, hi, h⟩ := Except.bind_eq_ok.mp h
  obtain ⟨userInterface, hu, h⟩ := Except.bind_eq_ok.mp h
  obtain ⟨objectStorage, ho, h⟩ := Except.bind_eq_ok.mp h
  obtain rfl := Except.ok.inj h
  have hmlmd (block : Mlmd) :
      (fun m => (m.envoy.image, m.grpc.image, m.writer.image))
          (Plan.mlmdOf (.ofConfig c) family block) =
        (chosenImage (block.envoy.map (·.image)) (c.imagesOf family).mlmdEnvoy,
          chosenImage (block.grpc.map (·.image)) (c.imagesOf family).mlmdGrpc,
          chosenImage (block.writer.map (·.image)) (c.imagesOf family).mlmdWriter) := by
    refine Prod.ext ?_ (Prod.ext ?_ ?_)
    · exact Registry.imageAt_part c block.envoy ⟨family, .mlmdEnvoy⟩ MlmdPart.image rfl
    · exact Registry.imageAt_part c block.grpc ⟨family, .mlmdGrpc⟩ MlmdGrpc.image rfl
    · exact Registry.imageAt_part c block.writer ⟨family, .mlmdWriter⟩ MlmdPart.image rfl
  exact
    { apiServer := Registry.imageAt_block c _ ⟨family, .apiServer⟩ ApiServer.image rfl
      artifact := Registry.imageAt_block c _ ⟨family, .artifact⟩ ApiServer.artifactImage rfl
      cache := Registry.imageAt_block c _ ⟨family, .cache⟩ ApiServer.cacheImage rfl
      moveResults :=
        Registry.imageAt_block c _ ⟨family, .moveResults⟩ ApiServer.moveResultsImage rfl
      persistenceAgent :=
        Registry.imageAt_block c _ ⟨family, .persistenceAgent⟩ PersistenceAgent.image rfl
      scheduledWorkflow :=
        Registry.imageAt_block c _ ⟨family, .scheduledWorkflow⟩ ScheduledWorkflow.image rfl
      mlmd := (Option.map_map ..).trans (Option.map_congr fun block _ => hmlmd block)
      crdViewer := Registry.imageAt_block c _ ⟨.legacy, .crdViewer⟩ ImageOnly.image rfl
      visualizationServer :=
        Registry.imageAt_block c _ ⟨.legacy, .visualizationServer⟩ ImageOnly.image rfl
      workflowController :=
        Registry.imageAt_block c _ ⟨.legacy, .workflowController⟩ ImageOnly.image rfl
      mariaDb := Plan.databaseOf_image c name space a.spec.database
      oauthProxy := Registry.lookup_ofConfig c ⟨.legacy, .oauthProxy⟩
      userInterface := userInterfacePlan_image hu
      minio := Plan.storageOf_image ho }

/-- Registries that agree for the set of images of an application plan it alike. -/
theorem plan_congr (h : ∀ family, Family.resolve a.spec.components.dspVersion
    a.spec.components.engineDriver = .ok family → r.AgreeFor family r') : a.plan r = a.plan r' := by
  cases hi : a.identify with
  | error e =>
    rw [plan, plan, hi]
    rfl
  | ok i =>
    have h := h i.family (identify_eq_ok.mp hi).2.2
    simp only [plan, hi, bind, Except.bind, h.apiServerOf, h.persistenceAgentOf,
      h.scheduledWorkflowOf, h.mlmdOf, h.imageOnlyOf .crdViewer (by decide),
      h.imageOnlyOf .visualizationServer (by decide), h.imageOnlyOf .workflowController (by decide),
      h.databaseOf, h.unversioned .oauthProxy (by decide)]

/-- Whatever the store answers, a resolution that succeeds has chosen every image between the user
and the section of the configuration that speaks for the application, or the first section where
the version does not matter.  Another configuration that has the same to say in these places is
resolved alike, whatever else stands in it. -/
theorem images_follow_configuration {c : Config} {fresh : Material} {es : List StoreExchange}
    {x : Resolution} (h : (a.resolve (.ofConfig c) fresh).Gives es (.ok x)) :
    ∃ s, c.SectionFor a.spec.components s ∧ x.parameters.ImagesFrom a s c.images ∧
      ∀ c' s', c'.SectionFor a.spec.components s' →
        (∀ image ∈ Image.versioned, s'.get image = s.get image) →
        (∀ image ∈ Image.unversioned, c'.images.get image = c.images.get image) →
        a.resolve (.ofConfig c') fresh = a.resolve (.ofConfig c) fresh := by
  obtain ⟨p, -, -, password, keys, hp, -, -, -, rfl⟩ := resolve_gives_ok_iff.mp h
  have hfamily := (identify_eq_ok.mp (plan_eq_ok hp).1).2.2
  refine ⟨c.imagesOf p.family, Config.sectionFor_iff.mpr ⟨p.family, hfamily, rfl⟩,
    imagesFrom_of_plan hp password keys, ?_⟩
  intro c' s' hs' hversioned hother
  obtain ⟨family', hfamily', rfl⟩ := Config.sectionFor_iff.mp hs'
  obtain rfl : p.family = family' := Except.ok.inj (hfamily.symm.trans hfamily')
  have hplan : a.plan (.ofConfig c') = a.plan (.ofConfig c) := by
    refine plan_congr fun family hf => ⟨fun image himage => ?_, fun image himage => ?_⟩
    · obtain rfl : p.family = family := Except.ok.inj (hfamily.symm.trans hf)
      rw [Registry.lookup_ofConfig, Registry.lookup_ofConfig, hversioned image himage]
    · rw [Registry.lookup_ofConfig, Registry.lookup_ofConfig]
      exact congrArg (orDefault · Registry.unset) (hother image himage)
  rw [resolve, resolve, hplan]

/-- The plain application in the second version of pipelines, with a cache image of the user's. -/
def plainTekton : Application :=
  { plain with
    spec := { plain.spec with
      components := { apiServer := some { image := some "", cacheImage := some "cache:user" },
                      dspVersion := "v2", engineDriver := "tekton" } } }

/-- A configuration that has an API server for every version, and of the other images one. -/
def threeServers : Config where
  intervals := Config.defaultIntervals
  images := { apiServer := some "server:first", crdViewer := some "viewer:first" }
  versioned :=
    { argo := { apiServer := some "server:argo" }
      tekton := { apiServer := some "server:tekton", crdViewer := some "viewer:tekton" } }

theorem images_follow_configuration_tekton : ∃ es x,
    (plainTekton.resolve (.ofConfig threeServers) (.repeating 0)).Gives es
      (.ok x) ∧
    x.parameters.ImagesFrom plainTekton threeServers.versioned.tekton threeServers.images ∧
    x.parameters.apiServer.image = "server:tekton" ∧
    x.parameters.apiServer.cacheImage = "cache:user" ∧
    x.parameters.crdViewer.image = "viewer:first" ∧
    x.parameters.workflowController.image = "MustSetInConfig" := by
  let pass := plainTekton.resolve (.ofConfig threeServers) (.repeating 0)
  obtain ⟨x, hx⟩ : ∃ x, (pass.run SecretStore.answer ⟨[]⟩).result.toOption = some x :=
    Option.isSome_iff_exists.mp (by decide +kernel)
  obtain ⟨es, hes, -⟩ := Dialogue.exists_gives_run SecretStore.answer pass ⟨[]⟩
  rw [Except.toOption_eq_some.mp hx] at hes
  obtain ⟨s, hs, himages, -⟩ := images_follow_configuration hes
  have htekton : s = threeServers.versioned.tekton := by
    cases hs with
    | first version => exact absurd rfl version
    | argo version driver => exact absurd driver (by decide)
    | tekton version driver => rfl
  subst htekton
  exact ⟨es, x, hes, himages, himages.apiServer, himages.cache, himages.crdViewer,
    himages.workflowController⟩

end Application

end PipelinesOperator
