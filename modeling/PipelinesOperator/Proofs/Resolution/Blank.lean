import Mathlib.Logic.Relation
import PipelinesOperator.Proofs.Race.Play
import PipelinesOperator.Proofs.Resolution.Choice
import PipelinesOperator.Proofs.Resolution.Flaws
import PipelinesOperator.Proofs.Resolution.Setting

/-!
# What is blank is absent

A value that says nothing may as well not be there: an empty text, a number that is not positive, a
reference without a name, a block in which nothing is set.  The rewritings that take such a thing
away are listed here, each as one step.  A step changes nothing at any stage of planning, so any
number of steps, to and fro, leaves the resolution and its calls as they are.

## Main definitions

* `FieldKind.Blank`: a value that says nothing
* `Application.Rewriting`: one application is another one with something blank taken away
* `Application.Alike`: applications that are the same at every stage of planning

## Main results

* `Plan.apiServerOf_blank` and its like: a blank value in a block is planned as none
* `Application.alike_of_rewriting`: a rewriting leaves every stage as it is
* `Application.blank_is_absent`: applications that rewritings lead to are resolved alike
-/

namespace PipelinesOperator

open Dialogue Relation

/-- A value that says nothing, so that a default takes its place. -/
def FieldKind.Blank : (k : FieldKind) → k.Value → Prop
  | .flag, _ => False
  | .text, s => s = ""
  | .quantity, q => q.text = ""
  | .number, n => n ≤ 0
  | .resources, _ => False
  | .script, m => m.name = ""

namespace Application

/-- The application with a config map for the script of the API server, if that has a block. -/
def withScript (a : Application) (script : Option ScriptConfigMap) : Application :=
  { a with
    spec.components.apiServer :=
      a.spec.components.apiServer.map ({ · with artifactScriptConfigMap := script }) }

/-- The application with a reference to the secret of a managed database, if that has a block. -/
def withPasswordSecret (a : Application) (secret : Option SecretKey) : Application :=
  { a with
    spec.database.source :=
      a.spec.database.source.modify ({ · with passwordSecret := secret }) }

/-- The application with a reference to the secret of managed object storage. -/
def withStorageKeys (a : Application) (secret : Option SecretKeyPair) : Application :=
  { a with
    spec.objectStorage.source :=
      a.spec.objectStorage.source.map (.modify ({ · with credentials := secret })) }

/-- The application with a change in the block of the metadata service, if that is there. -/
def modifyMlmd (a : Application) (change : Mlmd → Mlmd) : Application :=
  { a with spec.components.mlmd := a.spec.components.mlmd.map change }

/-- The second application is the first one with something blank taken away or, where it is a key,
replaced by the default. -/
inductive Rewriting : Application → Application → Prop where
  | value {k : FieldKind} (f : Setting k) (v : k.Value) (blank : k.Blank v) (a : Application) :
      Rewriting (f.put (some v) a) (f.put none a)
  | scriptKey (name : String) (a : Application) :
      Rewriting (a.withScript (some ⟨name, ""⟩)) (a.withScript (some ⟨name, "artifact_script"⟩))
  | passwordSecret (key : String) (a : Application) :
      Rewriting (a.withPasswordSecret (some ⟨"", key⟩)) (a.withPasswordSecret none)
  | passwordKey (name : String) (a : Application) :
      Rewriting (a.withPasswordSecret (some ⟨name, ""⟩))
        (a.withPasswordSecret (some ⟨name, "password"⟩))
  | storageKeys (accessKey secretKey : String) (a : Application) :
      Rewriting (a.withStorageKeys (some ⟨"", accessKey, secretKey⟩)) (a.withStorageKeys none)
  | apiServer (a : Application) :
      Rewriting { a with spec.components.apiServer := some {} }
        { a with spec.components.apiServer := none }
  | persistenceAgent (a : Application) :
      Rewriting { a with spec.components.persistenceAgent := some {} }
        { a with spec.components.persistenceAgent := none }
  | scheduledWorkflow (a : Application) :
      Rewriting { a with spec.components.scheduledWorkflow := some {} }
        { a with spec.components.scheduledWorkflow := none }
  | crdViewer (a : Application) :
      Rewriting { a with spec.components.crdViewer := some {} }
        { a with spec.components.crdViewer := none }
  | visualizationServer (a : Application) :
      Rewriting { a with spec.components.visualizationServer := some {} }
        { a with spec.components.visualizationServer := none }
  | workflowController (a : Application) :
      Rewriting { a with spec.components.workflowController := some {} }
        { a with spec.components.workflowController := none }
  | envoy (a : Application) :
      Rewriting (a.modifyMlmd ({ · with envoy := some {} }))
        (a.modifyMlmd ({ · with envoy := none }))
  | grpc (a : Application) :
      Rewriting (a.modifyMlmd ({ · with grpc := some {} })) (a.modifyMlmd ({ · with grpc := none }))
  | writer (a : Application) :
      Rewriting (a.modifyMlmd ({ · with writer := some {} }))
        (a.modifyMlmd ({ · with writer := none }))
  | mariaDb (a : Application) :
      Rewriting { a with spec.database.source := .managed (some { deploy := true }) }
        { a with spec.database.source := .managed none }

end Application

variable {k : FieldKind} {v : k.Value}

/-! ## Blank values in a block -/

namespace Plan

variable (r : Registry) (family : Family) (name space : String)

theorem apiServerOf_blank (f : ApiServer.Setting k) (hv : k.Blank v) (block : Option ApiServer) :
    apiServerOf r family name (block.map (f.put (some v))) =
      apiServerOf r family name (block.map (f.put none)) := by
  cases block with
  | none => rfl
  | some b =>
    cases f with
    | image | artifactImage | cacheImage | moveResultsImage | terminateStatus =>
      obtain rfl : v = "" := hv
      rfl
    | dbConfigConMaxLifetimeSec =>
      simp only [apiServerOf, ApiServer.Setting.put, Option.map_some, Option.getD_some,
        positiveOr_of_nonpos hv]
    | artifactScriptConfigMap =>
      have hunnamed : (some v).filter (fun m : ScriptConfigMap => m.name ≠ "") = none :=
        Option.filter_some_neg (by simpa using show v.name = "" from hv)
      simp only [apiServerOf, ApiServer.Setting.put, Option.map_some, Option.getD_some, hunnamed]
      rfl
    | _ => exact hv.elim

theorem persistenceAgentOf_blank (f : PersistenceAgent.Setting k) (hv : k.Blank v)
    (block : Option PersistenceAgent) :
    persistenceAgentOf r family (block.map (f.put (some v))) =
      persistenceAgentOf r family (block.map (f.put none)) := by
  cases block with
  | none => rfl
  | some b =>
    cases f with
    | image =>
      obtain rfl : v = "" := hv
      rfl
    | numWorkers =>
      simp only [persistenceAgentOf, PersistenceAgent.Setting.put, Option.map_some,
        Option.getD_some, positiveOr_of_nonpos hv]
    | deploy | resources => exact hv.elim

theorem scheduledWorkflowOf_blank (f : ScheduledWorkflow.Setting k) (hv : k.Blank v)
    (block : Option ScheduledWorkflow) :
    scheduledWorkflowOf r family (block.map (f.put (some v))) =
      scheduledWorkflowOf r family (block.map (f.put none)) := by
  cases block with
  | none => rfl
  | some b =>
    cases f with
    | image | cronScheduleTimezone =>
      obtain rfl : v = "" := hv
      rfl
    | deploy | resources => exact hv.elim

theorem imageOnlyOf_blank (image : Image) (f : ImageOnly.Setting k) (hv : k.Blank v)
    (block : Option ImageOnly) :
    imageOnlyOf r image (block.map (f.put (some v))) =
      imageOnlyOf r image (block.map (f.put none)) := by
  cases block with
  | none => rfl
  | some b =>
    cases f with
    | image =>
      obtain rfl : v = "" := hv
      rfl
    | deploy => exact hv.elim

theorem userInterfaceOf_blank (f : UserInterface.Setting k) (hv : k.Blank v) (b : UserInterface) :
    userInterfaceOf name (f.put (some v) b) = userInterfaceOf name (f.put none b) := by
  cases f with
  | image | configMapName =>
    obtain rfl : v = "" := hv
    rfl
  | deploy | resources => exact hv.elim

theorem mlmdOf_blank (f : Mlmd.Setting k) (hv : k.Blank v) (b : Mlmd) :
    mlmdOf r family (f.put (some v) b) = mlmdOf r family (f.put none b) := by
  cases f with
  | deploy => exact hv.elim
  | envoy f | writer f =>
    cases f with
    | image =>
      obtain rfl : v = "" := hv
      rfl
    | resources => exact hv.elim
  | grpc f =>
    cases f with
    | image | port =>
      obtain rfl : v = "" := hv
      rfl
    | resources => exact hv.elim

theorem databaseOf_blank (f : MariaDb.Setting k) (hv : k.Blank v) (d : Database) :
    databaseOf r name space { d with source := d.source.modify (f.put (some v)) } =
      databaseOf r name space { d with source := d.source.modify (f.put none) } := by
  obtain ⟨source, check⟩ := d
  cases source with
  | external e => rfl
  | managed block =>
    cases block with
    | none => rfl
    | some b =>
      cases f with
      | image | username | dbName =>
        obtain rfl : v = "" := hv
        rfl
      | pvcSize =>
        simp only [databaseOf, DatabaseSource.modify, Option.map_some, Option.getD_some,
          MariaDb.Setting.put, quantityOr_of_empty hv]
        rfl
      | deploy | resources => exact hv.elim

theorem storageOf_blank (f : Minio.Setting k) (hv : k.Blank v) (o : ObjectStorage) :
    storageOf name space { o with source := o.source.map (.modify (f.put (some v))) } =
      storageOf name space { o with source := o.source.map (.modify (f.put none)) } := by
  obtain ⟨source, check⟩ := o
  cases source with
  | none => rfl
  | some source =>
    cases source with
    | external e => rfl
    | managed b =>
      cases f with
      | image | bucket =>
        obtain rfl : v = "" := hv
        rfl
      | pvcSize =>
        simp only [storageOf, StorageSource.modify, Option.map_some, Minio.Setting.put,
          quantityOr_of_empty hv]
        rfl
      | deploy | resources => exact hv.elim

/-! ## Blank references -/

/-- An empty key of a config map is the default key. -/
theorem apiServerOf_scriptKey (script : String) (b : ApiServer) :
    apiServerOf r family name (some { b with artifactScriptConfigMap := some ⟨script, ""⟩ }) =
      apiServerOf r family name
        (some { b with artifactScriptConfigMap := some ⟨script, "artifact_script"⟩ }) := by
  by_cases hscript : script = ""
  · subst hscript
    rfl
  · have hfilter (key : String) :
        (some (⟨script, key⟩ : ScriptConfigMap)).filter (·.name ≠ "") = some ⟨script, key⟩ :=
      Option.filter_some_pos (decide_eq_true hscript)
    have hkey : orDefault (some "artifact_script") Names.artifactScriptKey = "artifact_script" :=
      orDefault_of_ne (by decide) _
    simp only [apiServerOf, Option.getD_some, hfilter, hkey]
    rfl

/-- An empty key of a password is the default key. -/
theorem customPassword_key (secret : String) (b : MariaDb) :
    customPassword { b with passwordSecret := some ⟨secret, ""⟩ } =
      customPassword { b with passwordSecret := some ⟨secret, "password"⟩ } := by
  by_cases hsecret : secret = ""
  · rw [customPassword_of_unnamed rfl hsecret, customPassword_of_unnamed rfl hsecret]
  · have hkey : orDefault (some "password") Names.passwordKey = "password" :=
      orDefault_of_ne (by decide) _
    rw [customPassword_of_named rfl hsecret, customPassword_of_named rfl hsecret, hkey]
    rfl

end Plan

namespace Application

variable {a a' : Application} {r : Registry}

/-! ## Planning -/

/-- Two applications are the same at every stage of planning. -/
structure Alike (r : Registry) (a a' : Application) : Prop where
  identify : a.identify = a'.identify
  userInterface : a.userInterfacePlan = a'.userInterfacePlan
  storage : ∀ name space, Plan.storageOf name space a.spec.objectStorage =
    Plan.storageOf name space a'.spec.objectStorage
  planOf : ∀ i userInterface storage,
    a.planOf r i userInterface storage = a'.planOf r i userInterface storage

/-- Applications that are the same at every stage have one plan, or the same mistake. -/
theorem Alike.plan (h : Alike r a a') : a.plan r = a'.plan r := by
  show (a.identify >>= fun i => a.userInterfacePlan i.name >>= fun userInterface =>
      Plan.storageOf i.name i.space a.spec.objectStorage >>= fun storage =>
        .ok (a.planOf r i userInterface storage)) = _
  simp only [h.identify, h.userInterface, h.storage, h.planOf]
  rfl

theorem userInterfacePlan_blank (f : UserInterface.Setting k) (hv : k.Blank v) (a : Application) :
    ((Setting.userInterface f).put (some v) a).userInterfacePlan =
      ((Setting.userInterface f).put none a).userInterfacePlan := by
  funext name
  simp only [userInterfacePlan, Setting.put]
  cases a.spec.components.userInterface with
  | none => rfl
  | some b => exact congrArg (Except.map some) (Plan.userInterfaceOf_blank name f hv b)

/-- A blank value is the same as none at every stage.  A field is read at one stage, and at the last
one for one part of the plan. -/
theorem alike_of_blank (f : Setting k) (hv : k.Blank v) (a : Application) :
    Alike r (f.put (some v) a) (f.put none a) := by
  cases f with
  | apiServer f =>
    exact ⟨rfl, rfl, fun _ _ => rfl, fun i u s =>
      congrArg (fun q => { a.planOf r i u s with apiServer := q })
        (Plan.apiServerOf_blank r i.family i.name f hv _)⟩
  | persistenceAgent f =>
    exact ⟨rfl, rfl, fun _ _ => rfl, fun i u s =>
      congrArg (fun q => { a.planOf r i u s with persistenceAgent := q })
        (Plan.persistenceAgentOf_blank r i.family f hv _)⟩
  | scheduledWorkflow f =>
    exact ⟨rfl, rfl, fun _ _ => rfl, fun i u s =>
      congrArg (fun q => { a.planOf r i u s with scheduledWorkflow := q })
        (Plan.scheduledWorkflowOf_blank r i.family f hv _)⟩
  | userInterface f =>
    exact ⟨rfl, userInterfacePlan_blank f hv a, fun _ _ => rfl, fun _ _ _ => rfl⟩
  | mlmd f =>
    refine ⟨rfl, rfl, fun _ _ => rfl, fun i u s =>
      congrArg (fun q => { a.planOf r i u s with mlmd := q }) ?_⟩
    simp only [Setting.put, Option.map_map]
    exact Option.map_congr fun block _ => Plan.mlmdOf_blank r i.family f hv block
  | crdViewer f =>
    exact ⟨rfl, rfl, fun _ _ => rfl, fun i u s =>
      congrArg (fun q => { a.planOf r i u s with crdViewer := q })
        (Plan.imageOnlyOf_blank r .crdViewer f hv _)⟩
  | visualizationServer f =>
    exact ⟨rfl, rfl, fun _ _ => rfl, fun i u s =>
      congrArg (fun q => { a.planOf r i u s with visualizationServer := q })
        (Plan.imageOnlyOf_blank r .visualizationServer f hv _)⟩
  | workflowController f =>
    exact ⟨rfl, rfl, fun _ _ => rfl, fun i u s =>
      congrArg (fun q => { a.planOf r i u s with workflowController := q })
        (Plan.imageOnlyOf_blank r .workflowController f hv _)⟩
  | mariaDb f =>
    exact ⟨rfl, rfl, fun _ _ => rfl, fun i u s =>
      congrArg (fun q => { a.planOf r i u s with database := q })
        (Plan.databaseOf_blank r i.name i.space f hv a.spec.database)⟩
  | minio f =>
    exact ⟨rfl, rfl, fun name space => Plan.storageOf_blank name space f hv a.spec.objectStorage,
      fun _ _ _ => rfl⟩

/-- References of managed services that come to one custom secret are the same at every stage. -/
theorem alike_withPasswordSecret {secret secret' : Option SecretKey} (a : Application)
    (h : ∀ b : MariaDb, Plan.customPassword { b with passwordSecret := secret } =
      Plan.customPassword { b with passwordSecret := secret' }) :
    Alike r (a.withPasswordSecret secret) (a.withPasswordSecret secret') := by
  refine ⟨rfl, rfl, fun _ _ => rfl, fun i u s =>
    congrArg (fun q => { a.planOf r i u s with database := q }) ?_⟩
  simp only [withPasswordSecret]
  cases a.spec.database.source with
  | external e => rfl
  | managed block =>
    cases block with
    | none => rfl
    | some b =>
      let d := Plan.databaseOf r i.name i.space
        ⟨.managed (some b), a.spec.database.disableHealthCheck⟩
      exact congrArg (fun custom => { d with credentials := .database i.space i.name custom }) (h b)

/-- A rewriting leaves every stage of planning as it is. -/
theorem alike_of_rewriting (h : Rewriting a a') : Alike r a a' := by
  cases h with
  | value f v blank a => exact alike_of_blank f blank a
  | scriptKey name a =>
    refine ⟨rfl, rfl, fun _ _ => rfl, fun i u s =>
      congrArg (fun q => { a.planOf r i u s with apiServer := q }) ?_⟩
    simp only [withScript]
    cases a.spec.components.apiServer with
    | none => rfl
    | some b => exact Plan.apiServerOf_scriptKey r i.family i.name name b
  | passwordSecret key a => exact alike_withPasswordSecret a fun _ => rfl
  | passwordKey name a => exact alike_withPasswordSecret a (Plan.customPassword_key name)
  | storageKeys accessKey secretKey a =>
    refine ⟨rfl, rfl, fun name space => ?_, fun _ _ _ => rfl⟩
    simp only [withStorageKeys]
    cases a.spec.objectStorage.source with
    | none => rfl
    | some source => cases source <;> rfl
  | apiServer a | persistenceAgent a | scheduledWorkflow a | crdViewer a | visualizationServer a
    | workflowController a => exact ⟨rfl, rfl, fun _ _ => rfl, fun _ _ _ => rfl⟩
  | mariaDb a => exact ⟨rfl, rfl, fun _ _ => rfl, fun _ _ _ => rfl⟩
  | envoy a | grpc a | writer a =>
    refine ⟨rfl, rfl, fun _ _ => rfl, fun i u s =>
      congrArg (fun q => { a.planOf r i u s with mlmd := q }) ?_⟩
    simp only [modifyMlmd, Option.map_map]
    exact Option.map_congr fun block _ => rfl

/-- Applications that rewritings lead to, in whichever direction each is gone, have one plan. -/
theorem plan_of_rewritings (h : EqvGen Rewriting a a') : a.plan r = a'.plan r := by
  induction h with
  | rel a a' h => exact (alike_of_rewriting h).plan
  | refl a => rfl
  | symm a a' _ ih => exact ih.symm
  | trans a a' a'' _ _ ih ih' => exact ih.trans ih'

/-! ## Resolving -/

/-- What is blank is absent.  However many things that say nothing are taken away from an
application or put into it, it is resolved with the same result, and the store is asked the same.
Nothing is assumed of the store. -/
theorem blank_is_absent {σ : Type} (answer : (call : StoreCall) → σ → call.Answer × σ)
    (r : Registry) (fresh : Material) (s : σ) {a a' : Application}
    (h : EqvGen Rewriting a a') :
    let o := run answer (a.resolve r fresh) s
    let o' := run answer (a'.resolve r fresh) s
    o.result = o'.result ∧ o.state = o'.state ∧
      questions answer (a.resolve r fresh) s = questions answer (a'.resolve r fresh) s := by
  intro o o'
  have hplan : a.plan r = a'.plan r := plan_of_rewritings h
  have ho : o = _ := run_tellAll answer _ _ s
  have ho' : o' = _ := run_tellAll answer _ _ s
  rw [resolve, resolve, questions_tellAll, questions_tellAll, ho, ho', hplan]
  exact ⟨rfl, rfl, rfl⟩

/-- The plain application with an empty image for its API server, and with the keys of a secret that
has no name. -/
def wordy : Application :=
  { plain.withStorageKeys (some ⟨"", "access", "secret"⟩) with
    spec.components.apiServer := some { image := some "" } }

theorem blank_is_absent_wordy : EqvGen Rewriting wordy plain ∧
    (run SecretStore.answer (wordy.resolve ⟨∅⟩ (.repeating 0)) ⟨[]⟩).result =
      (run SecretStore.answer
        (plain.resolve ⟨∅⟩ (.repeating 0)) ⟨[]⟩).result := by
  let keys := plain.withStorageKeys (some ⟨"", "access", "secret"⟩)
  let server := { keys with spec.components.apiServer := some {} }
  have himage : Rewriting wordy server := .value (.apiServer .image) "" rfl server
  have hserver : Rewriting server keys := .apiServer keys
  have hkeys : Rewriting keys plain := .storageKeys "access" "secret" plain
  have h : EqvGen Rewriting wordy plain :=
    .trans _ _ _ (.rel _ _ himage) (.trans _ _ _ (.rel _ _ hserver) (.rel _ _ hkeys))
  exact ⟨h, (blank_is_absent SecretStore.answer ⟨∅⟩ (.repeating 0) ⟨[]⟩ h).1⟩

end Application

end PipelinesOperator
