import PipelinesOperator.Proofs.Resolution.Plan
import PipelinesOperator.Resolution.Basic

/-!
# How open choices are made

A value that says something is taken as it stands, and one that says nothing is no other than none
at all.  What the parameters say of the two backing services is told from their plans, and a plan
is told from the stages of its making.

## Main definitions

* `Plan.userInterfaceOfBlock`, `Plan.externalStorage`, `Plan.managedStorage`: what comes of a block
* `DatabasePlan.parameters`, `StoragePlan.parameters`: the parameters of a planned service
* `Application.planOf`: the plan that the stages come to

## Main results

* `imageAt_of_ne`, `orDefault_of_ne`, `quantityOr_of_ne`, `positiveOr_of_pos`: a value that says
  something is taken
* `quantityOr_of_empty`, `positiveOr_of_nonpos`: a value that says nothing is none
* `orDefault_ne`, `quantityOr_text_ne`, `positiveOr_pos`: what is chosen says something if the
  default does
* `userInterfaceOf_eq_ok`, `storageOf_eq_ok`: which blocks are planned, and how
* `exists_stages`: a plan comes from its stages
-/

namespace PipelinesOperator

/-! ## Texts -/

theorem nonEmpty_of_ne {s : String} (h : s ≠ "") : nonEmpty (some s) = some s :=
  nonEmpty_eq_some.mpr ⟨rfl, h⟩

theorem orDefault_of_ne {s : String} (h : s ≠ "") (default : String) :
    orDefault (some s) default = s := by
  rw [orDefault, nonEmpty_of_ne h]
  rfl

theorem orDefault_ne {default : String} (h : default ≠ "") (value : Option String) :
    orDefault value default ≠ "" := by
  rw [orDefault]
  cases hv : nonEmpty value with
  | none => exact h
  | some s => exact (nonEmpty_eq_some.mp hv).2

namespace Registry

theorem imageAt_of_ne (r : Registry) {s : String} (h : s ≠ "") (path : ImagePath) :
    r.imageAt (some s) path = s := by
  rw [imageAt, nonEmpty_of_ne h]
  rfl

end Registry

/-! ## Quantities and numbers -/

theorem quantityOr_of_ne {q : Quantity} (h : q.text ≠ "") (default : String) :
    quantityOr (some q) default = q := by
  have hq : decide (q.text ≠ "") = true := decide_eq_true h
  rw [quantityOr, Option.filter_some, if_pos hq]
  rfl

theorem quantityOr_of_empty {q : Quantity} (h : q.text = "") (default : String) :
    quantityOr (some q) default = quantityOr none default := by
  rw [quantityOr, Option.filter_some_neg (by simpa using h)]
  rfl

theorem quantityOr_text_ne {default : String} (h : default ≠ "") (value : Option Quantity) :
    (quantityOr value default).text ≠ "" := by
  rw [quantityOr]
  cases hv : value.filter (·.text ≠ "") with
  | none => exact h
  | some q =>
    obtain ⟨-, hq⟩ := Option.filter_eq_some_iff.mp hv
    exact of_decide_eq_true hq

theorem positiveOr_of_pos {n : Int32} (h : 0 < n) (default : Int32) :
    positiveOr (some n) default = n := by
  have hn : decide (0 < n) = true := decide_eq_true h
  rw [positiveOr, Option.filter_some, if_pos hn]
  rfl

theorem positiveOr_of_nonpos {n : Int32} (h : n ≤ 0) (default : Int32) :
    positiveOr (some n) default = positiveOr none default := by
  rw [positiveOr, Option.filter_some_neg (by simpa using h)]
  rfl

theorem positiveOr_pos {default : Int32} (h : 0 < default) (value : Option Int32) :
    0 < positiveOr value default := by
  rw [positiveOr]
  cases hv : value.filter (0 < ·) with
  | none => exact h
  | some n =>
    obtain ⟨-, hn⟩ := Option.filter_eq_some_iff.mp hv
    exact of_decide_eq_true hn

/-! ## What is planned of a block that has to have an image -/

namespace Plan

variable {name space : String}

/-- The parameters of the user interface of a block. -/
def userInterfaceOfBlock (name : String) (b : UserInterface) : Parameters.UserInterface where
  deploy := b.deploy
  image := b.image
  configMapName := orDefault b.configMapName (Names.userInterfaceConfigMap name)
  resources := b.resources.getD .small

theorem userInterfaceOf_eq_ok {b : UserInterface} {u : Parameters.UserInterface} :
    userInterfaceOf name b = .ok u ↔ b.image ≠ "" ∧ u = userInterfaceOfBlock name b := by
  rw [userInterfaceOf]
  by_cases himage : b.image = ""
  · simp [himage]
  · rw [if_neg himage, Except.ok.injEq, eq_comm]
    exact (and_iff_right himage).symm

/-- The plan of object storage that somebody else runs. -/
def externalStorage (name space : String) (e : ExternalStorage) (check : Bool) : StoragePlan where
  managed := none
  host := e.host
  port := e.port
  scheme := e.scheme
  bucket := e.bucket
  secure := e.secure.getD (e.scheme = "https")
  credentials := .storage space name (some e.credentials)
  operatorSecret := .storage space name none
  external := true
  disableHealthCheck := check

/-- The plan of the object storage of a block. -/
def managedStorage (name space : String) (b : Minio) (check : Bool) : StoragePlan where
  managed := some
    { deploy := b.deploy
      image := b.image
      bucket := orDefault b.bucket Names.pipelines
      pvcSize := quantityOr b.pvcSize Names.volumeSize
      resources := b.resources.getD .minio }
  host := Names.serviceHost Names.minio name space
  port := Names.minioPort
  scheme := Names.minioScheme
  bucket := orDefault b.bucket Names.pipelines
  secure := false
  credentials := .storage space name (customKeys b)
  operatorSecret := .storage space name none
  external := false
  disableHealthCheck := check

theorem storageOf_managed (b : Minio) (check : Bool) :
    storageOf name space ⟨some (.managed b), check⟩ =
      if b.image = "" then .error .missingMinioImage
      else .ok (managedStorage name space b check) := rfl

/-- Object storage is planned if somebody else runs it, or if its block has an image. -/
theorem storageOf_eq_ok {o : ObjectStorage} {s : StoragePlan} :
    storageOf name space o = .ok s ↔
      (∃ e, o.source = some (.external e) ∧
        s = externalStorage name space e o.disableHealthCheck) ∨
      ∃ b, o.source = some (.managed b) ∧ b.image ≠ "" ∧
        s = managedStorage name space b o.disableHealthCheck := by
  obtain ⟨source, check⟩ := o
  cases source with
  | none => simp [storageOf]
  | some source =>
    cases source with
    | external e =>
      constructor
      · intro h
        exact .inl ⟨e, rfl, (Except.ok.inj h).symm⟩
      · rintro (⟨_, ⟨⟩, rfl⟩ | ⟨_, ⟨⟩, -⟩)
        rfl
    | managed b =>
      rw [storageOf_managed]
      constructor
      · intro h
        split at h
        · cases h
        · rename_i himage
          exact .inr ⟨b, rfl, himage, (Except.ok.inj h).symm⟩
      · rintro (⟨_, ⟨⟩, -⟩ | ⟨_, ⟨⟩, himage, rfl⟩)
        exact if_neg himage

end Plan

/-- A user interface that is planned comes from a block with an image. -/
theorem Application.userInterfacePlan_eq_some {a : Application} {name : String}
    {u : Parameters.UserInterface} (h : a.userInterfacePlan name = .ok (some u)) :
    ∃ b, a.spec.components.userInterface = some b ∧ b.image ≠ "" ∧
      u = Plan.userInterfaceOfBlock name b := by
  rw [userInterfacePlan] at h
  cases hb : a.spec.components.userInterface with
  | none =>
    rw [hb] at h
    cases h
  | some b =>
    rw [hb] at h
    obtain ⟨u', hu', heq⟩ := Except.map_eq_ok.mp h
    obtain rfl := Option.some.inj heq
    obtain ⟨himage, rfl⟩ := Plan.userInterfaceOf_eq_ok.mp hu'
    exact ⟨b, rfl, himage, rfl⟩

/-! ## The parameters of the backing services -/

/-- The parameters of a planned database, with the origin of its password. -/
def DatabasePlan.parameters (d : DatabasePlan) (origin : Origin) : Parameters.Database where
  managed := d.managed
  connection :=
    { host := d.host
      port := d.port
      username := d.username
      dbName := d.dbName
      credentials := d.credentials
      operatorSecret := d.operatorSecret
      passwordOrigin := origin
      external := d.external
      disableHealthCheck := d.disableHealthCheck }

/-- The parameters of planned object storage, with the origin of its keys. -/
def StoragePlan.parameters (s : StoragePlan) (origin : Origin) : Parameters.ObjectStorage where
  managed := s.managed
  connection :=
    { host := s.host
      port := s.port
      scheme := s.scheme
      bucket := s.bucket
      secure := s.secure
      endpoint := endpoint s.scheme s.host s.port
      credentials := s.credentials
      operatorSecret := s.operatorSecret
      keysOrigin := origin
      external := s.external
      disableHealthCheck := s.disableHealthCheck }

namespace Plan

/-- The operator's own secrets are named even when they are not in use. -/
theorem databaseOf_operatorSecret (r : Registry) (name space : String) (d : Database) :
    (databaseOf r name space d).operatorSecret = .database space name none := by
  rw [databaseOf]
  split
  · rfl
  · rfl

theorem storageOf_operatorSecret {name space : String} {o : ObjectStorage} {s : StoragePlan}
    (h : storageOf name space o = .ok s) : s.operatorSecret = .storage space name none := by
  rcases storageOf_eq_ok.mp h with ⟨e, -, rfl⟩ | ⟨b, -, -, rfl⟩
  · rfl
  · rfl

end Plan

/-! ## The stages of planning -/

namespace Application

variable {r : Registry} {a : Application} {i : Identity}
  {userInterface : Option Parameters.UserInterface} {storage : StoragePlan}

/-- The plan that the stages of planning come to, once none of them has found a mistake. -/
def planOf (r : Registry) (a : Application) (i : Identity)
    (userInterface : Option Parameters.UserInterface) (storage : StoragePlan) : Plan where
  name := i.name
  space := i.space
  dspVersion := a.spec.components.dspVersion
  engineDriver := a.spec.components.engineDriver
  family := i.family
  oauthProxyImage := r.lookup (ImagePath.mk .legacy .oauthProxy).text
  apiServer := Plan.apiServerOf r i.family i.name a.spec.components.apiServer
  persistenceAgent := Plan.persistenceAgentOf r i.family a.spec.components.persistenceAgent
  scheduledWorkflow := Plan.scheduledWorkflowOf r i.family a.spec.components.scheduledWorkflow
  userInterface
  mlmd := a.spec.components.mlmd.map (Plan.mlmdOf r i.family)
  crdViewer := Plan.imageOnlyOf r .crdViewer a.spec.components.crdViewer
  visualizationServer :=
    Plan.imageOnlyOf r .visualizationServer a.spec.components.visualizationServer
  workflowController :=
    Plan.imageOnlyOf r .workflowController a.spec.components.workflowController
  database := Plan.databaseOf r i.name i.space a.spec.database
  objectStorage := storage

theorem plan_of_stages (hi : a.identify = .ok i)
    (hu : a.userInterfacePlan i.name = .ok userInterface)
    (ho : Plan.storageOf i.name i.space a.spec.objectStorage = .ok storage) :
    a.plan r = .ok (a.planOf r i userInterface storage) :=
  (Except.bind_of_ok hi _).trans <|
    (Except.bind_of_ok hu _).trans (Except.bind_of_ok ho _)

/-- A plan comes from its stages. -/
theorem exists_stages {p : Plan} (h : a.plan r = .ok p) : ∃ i userInterface storage,
    a.identify = .ok i ∧ a.userInterfacePlan i.name = .ok userInterface ∧
      Plan.storageOf i.name i.space a.spec.objectStorage = .ok storage ∧
      p = a.planOf r i userInterface storage := by
  obtain ⟨i, hi, h⟩ := Except.bind_eq_ok.mp h
  obtain ⟨userInterface, hu, h⟩ := Except.bind_eq_ok.mp h
  obtain ⟨storage, ho, h⟩ := Except.bind_eq_ok.mp h
  exact ⟨i, userInterface, storage, hi, hu, ho, (Except.ok.inj h).symm⟩

end Application

end PipelinesOperator
