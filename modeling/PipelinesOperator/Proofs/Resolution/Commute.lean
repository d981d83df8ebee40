import PipelinesOperator.Proofs.Race.Play
import PipelinesOperator.Proofs.Resolution.Choice
import PipelinesOperator.Proofs.Resolution.Setting

/-!
# Setting a field

An effective value that a user sets in a block reaches the slot of its field as it is, and nothing
else depends on it: with the field set, an application is resolved as before, but for that slot.
The proof goes from the blocks to the plan, whose credentials are kept where they were, and from
the plan to the dialogue with the store.

## Main definitions

* `FieldKind.Effective`: a value of which no default takes the place
* `Plan.Alters`: one plan is completed as another one, but for a change in the parameters

## Main results

* `Plan.apiServerOf_put` and its like: a block with a field set is planned as the block, but for the
  slot of the field
* `Application.plan_put`: the same for the plan of an application
* `Application.set_commutes_with_resolve`: the same for its resolution
-/

namespace PipelinesOperator

open Dialogue

/-- A value that says something, so that no default takes its place.  Requirements do even if they
are empty. -/
def FieldKind.Effective : (k : FieldKind) → k.Value → Prop
  | .flag, _ => True
  | .text, s => s ≠ ""
  | .quantity, q => q.text ≠ ""
  | .number, n => 0 < n
  | .resources, _ => True
  | .script, m => m.name ≠ "" ∧ m.key ≠ ""

variable {k : FieldKind} {v : k.Value}

/-! ## Blocks -/

namespace Plan

variable (r : Registry) (family : Family) (name space : String)

theorem apiServerOf_put (f : ApiServer.Setting k) (hv : k.Effective v) {block : Option ApiServer}
    (h : block.isSome) : apiServerOf r family name (block.map (f.put (some v))) =
      f.write v (apiServerOf r family name block) := by
  obtain ⟨b, rfl⟩ := Option.isSome_iff_exists.mp h
  rw [Option.map_some]
  cases f with
  | image | artifactImage | cacheImage | moveResultsImage =>
    have himage (path : ImagePath) : r.imageAt (some v) path = v := r.imageAt_of_ne hv path
    simp only [apiServerOf, ApiServer.Setting.put, ApiServer.Setting.write, Option.getD_some,
      himage]
  | terminateStatus =>
    simp only [apiServerOf, ApiServer.Setting.put, ApiServer.Setting.write, Option.getD_some,
      orDefault_of_ne hv]
  | dbConfigConMaxLifetimeSec =>
    simp only [apiServerOf, ApiServer.Setting.put, ApiServer.Setting.write, Option.getD_some,
      positiveOr_of_pos hv]
  | artifactScriptConfigMap =>
    obtain ⟨hname, hkey⟩ := hv
    have hname : (some v).filter (fun m : ScriptConfigMap => m.name ≠ "") = some v :=
      Option.filter_some_pos (decide_eq_true hname)
    simp only [apiServerOf, ApiServer.Setting.put, ApiServer.Setting.write, Option.getD_some, hname,
      orDefault_of_ne hkey]
  | _ => rfl

theorem persistenceAgentOf_put (f : PersistenceAgent.Setting k) (hv : k.Effective v)
    {block : Option PersistenceAgent} (h : block.isSome) :
    persistenceAgentOf r family (block.map (f.put (some v))) =
      f.write v (persistenceAgentOf r family block) := by
  obtain ⟨b, rfl⟩ := Option.isSome_iff_exists.mp h
  rw [Option.map_some]
  cases f with
  | image =>
    simp only [persistenceAgentOf, PersistenceAgent.Setting.put, PersistenceAgent.Setting.write,
      Option.getD_some, r.imageAt_of_ne hv]
  | numWorkers =>
    simp only [persistenceAgentOf, PersistenceAgent.Setting.put, PersistenceAgent.Setting.write,
      Option.getD_some, positiveOr_of_pos hv]
  | deploy | resources => rfl

theorem scheduledWorkflowOf_put (f : ScheduledWorkflow.Setting k) (hv : k.Effective v)
    {block : Option ScheduledWorkflow} (h : block.isSome) :
    scheduledWorkflowOf r family (block.map (f.put (some v))) =
      f.write v (scheduledWorkflowOf r family block) := by
  obtain ⟨b, rfl⟩ := Option.isSome_iff_exists.mp h
  rw [Option.map_some]
  cases f with
  | image =>
    simp only [scheduledWorkflowOf, ScheduledWorkflow.Setting.put, ScheduledWorkflow.Setting.write,
      Option.getD_some, r.imageAt_of_ne hv]
  | cronScheduleTimezone =>
    simp only [scheduledWorkflowOf, ScheduledWorkflow.Setting.put, ScheduledWorkflow.Setting.write,
      Option.getD_some, orDefault_of_ne hv]
  | deploy | resources => rfl

theorem imageOnlyOf_put (image : Image) (f : ImageOnly.Setting k) (hv : k.Effective v)
    {block : Option ImageOnly} (h : block.isSome) :
    imageOnlyOf r image (block.map (f.put (some v))) = f.write v (imageOnlyOf r image block) := by
  obtain ⟨b, rfl⟩ := Option.isSome_iff_exists.mp h
  rw [Option.map_some]
  cases f with
  | image =>
    simp only [imageOnlyOf, ImageOnly.Setting.put, ImageOnly.Setting.write, Option.getD_some,
      r.imageAt_of_ne hv]
  | deploy => rfl

/-- A user interface with a field set has an image if it had one before. -/
theorem userInterfaceOf_put (f : UserInterface.Setting k) (hv : k.Effective v) {b : UserInterface}
    {u : Parameters.UserInterface} (h : userInterfaceOf name b = .ok u) :
    userInterfaceOf name (f.put (some v) b) = .ok (f.write v u) := by
  obtain ⟨himage, rfl⟩ := userInterfaceOf_eq_ok.mp h
  refine userInterfaceOf_eq_ok.mpr ?_
  cases f with
  | image => exact ⟨hv, rfl⟩
  | configMapName =>
    refine ⟨himage, ?_⟩
    simp only [userInterfaceOfBlock, UserInterface.Setting.put, UserInterface.Setting.write,
      orDefault_of_ne hv]
  | deploy | resources => exact ⟨himage, rfl⟩

/-- A field of a part of the metadata service reaches the slot of that part. -/
theorem mlmdOf_put (f : Mlmd.Setting k) (hv : k.Effective v) {b : Mlmd} (hin : f.In b) :
    mlmdOf r family (f.put (some v) b) = f.write v (mlmdOf r family b) := by
  cases f with
  | deploy => rfl
  | envoy f | writer f =>
    obtain ⟨part, hpart⟩ := Option.isSome_iff_exists.mp hin
    simp only [mlmdOf, Mlmd.Setting.put, Mlmd.Setting.write, hpart, Option.map_some,
      Option.getD_some]
    cases f with
    | resources => rfl
    | image =>
      simp only [MlmdPart.Setting.put, MlmdPart.Setting.write, Option.getD_some,
        r.imageAt_of_ne hv]
  | grpc f =>
    obtain ⟨part, hpart⟩ := Option.isSome_iff_exists.mp hin
    simp only [mlmdOf, Mlmd.Setting.put, Mlmd.Setting.write, hpart, Option.map_some,
      Option.getD_some]
    cases f with
    | resources => rfl
    | image =>
      simp only [MlmdGrpc.Setting.put, MlmdGrpc.Setting.write, Option.getD_some,
        r.imageAt_of_ne hv]
    | port =>
      simp only [MlmdGrpc.Setting.put, MlmdGrpc.Setting.write, Option.getD_some,
        orDefault_of_ne hv]

/-- A field of a managed database reaches its slot, and its copy in the connection. -/
theorem databaseOf_put (f : MariaDb.Setting k) (hv : k.Effective v) {d : Database}
    (hin : d.source.block?.isSome) (origin : Origin) :
    (databaseOf r name space { d with source := d.source.modify (f.put (some v)) }).parameters
        origin =
      f.write v ((databaseOf r name space d).parameters origin) := by
  obtain ⟨source, check⟩ := d
  cases source with
  | external e => cases hin
  | managed block =>
    obtain ⟨b, rfl⟩ := Option.isSome_iff_exists.mp hin
    simp only [databaseOf, DatabaseSource.modify, Option.map_some, Option.getD_some]
    cases f with
    | image =>
      simp only [MariaDb.Setting.put, r.imageAt_of_ne hv]
      rfl
    | username | dbName =>
      simp only [MariaDb.Setting.put, orDefault_of_ne hv]
      rfl
    | pvcSize =>
      simp only [MariaDb.Setting.put, quantityOr_of_ne hv]
      rfl
    | deploy | resources => rfl

theorem databaseOf_put_credentials (f : MariaDb.Setting k) (d : Database) :
    (databaseOf r name space { d with source := d.source.modify (f.put (some v)) }).credentials =
      (databaseOf r name space d).credentials := by
  obtain ⟨source, check⟩ := d
  cases source with
  | external e => rfl
  | managed block =>
    cases block with
    | none => rfl
    | some b => cases f <;> rfl

/-- A field of managed object storage reaches its slot, and its copy in the connection. -/
theorem managedStorage_put (f : Minio.Setting k) (hv : k.Effective v) (b : Minio) (check : Bool)
    (origin : Origin) : (managedStorage name space (f.put (some v) b) check).parameters origin =
      f.write v ((managedStorage name space b check).parameters origin) := by
  cases f with
  | bucket =>
    simp only [managedStorage, Minio.Setting.put, orDefault_of_ne hv]
    rfl
  | pvcSize =>
    simp only [managedStorage, Minio.Setting.put, quantityOr_of_ne hv]
    rfl
  | deploy | resources | image => rfl

/-- Object storage with a field set is planned if it was before, and its keys are kept where they
were.  The image stays given, since no empty one is set. -/
theorem storageOf_put (f : Minio.Setting k) (hv : k.Effective v) {o : ObjectStorage}
    {s : StoragePlan} (h : storageOf name space o = .ok s)
    (hin : (o.source.bind (·.block?)).isSome) :
    ∃ s', storageOf name space { o with source := o.source.map (.modify (f.put (some v))) } =
        .ok s' ∧ s'.credentials = s.credentials ∧
      ∀ origin, s'.parameters origin = f.write v (s.parameters origin) := by
  rcases storageOf_eq_ok.mp h with ⟨e, he, -⟩ | ⟨b, hb, himage, rfl⟩
  · rw [he] at hin
    cases hin
  · have himage : (f.put (some v) b).image ≠ "" := by
      cases f with
      | image => exact hv
      | deploy | bucket | pvcSize | resources => exact himage
    have hkeys : customKeys (f.put (some v) b) = customKeys b := by cases f <;> rfl
    refine ⟨managedStorage name space (f.put (some v) b) o.disableHealthCheck,
      storageOf_eq_ok.mpr (.inr ⟨_, ?_, himage, rfl⟩),
      congrArg (CredentialReference.storage space name) hkeys,
      managedStorage_put name space f hv b o.disableHealthCheck⟩
    rw [hb]
    rfl

end Plan

/-! ## Plans -/

/-- A resolution with a change in its parameters. -/
def Resolution.alter (change : Parameters → Parameters) (x : Resolution) : Resolution :=
  { x with parameters := change x.parameters }

/-- A plan keeps its credentials where another one does, and is completed as that one but for a
change in the parameters. -/
structure Plan.Alters (change : Parameters → Parameters) (p p' : Plan) : Prop where
  password : p'.database.credentials = p.database.credentials
  keys : p'.objectStorage.credentials = p.objectStorage.credentials
  complete : ∀ password keys,
    p'.complete password keys = (p.complete password keys).alter change

namespace Application

variable {r : Registry} {a : Application} {p : Plan}

/-- The metadata of an application and its version and engine are in no block. -/
theorem identify_put (f : Setting k) (v : Option k.Value) (a : Application) :
    (f.put v a).identify = a.identify := by
  cases f <;> rfl

theorem userInterfacePlan_put (f : UserInterface.Setting k) (hv : k.Effective v) {name : String}
    {userInterface : Option Parameters.UserInterface}
    (h : a.userInterfacePlan name = .ok userInterface) :
    ((Setting.userInterface f).put (some v) a).userInterfacePlan name =
      .ok (userInterface.map (f.write v)) := by
  rw [userInterfacePlan] at h ⊢
  cases hblock : a.spec.components.userInterface with
  | none =>
    rw [hblock] at h
    obtain rfl := Except.ok.inj h
    simp only [Setting.put, hblock]
    rfl
  | some block =>
    rw [hblock] at h
    obtain ⟨u, hu, rfl⟩ := Except.map_eq_ok.mp h
    simp only [Setting.put, hblock, Option.map_some, Plan.userInterfaceOf_put name f hv hu]
    rfl

/-- With a field set, an application that has a plan has one that differs in the slot of the field.
The stages that the field is not for are those of the application as it was. -/
theorem plan_put (f : Setting k) (hin : f.In a) (hv : k.Effective v) (hp : a.plan r = .ok p) :
    ∃ p', (f.put (some v) a).plan r = .ok p' ∧ p.Alters (fun q => f.write v q) p' := by
  obtain ⟨i, userInterface, storage, hi, hu, ho, rfl⟩ := exists_stages hp
  have hi' : (f.put (some v) a).identify = .ok i := (identify_put f (some v) a).trans hi
  cases f with
  | apiServer f =>
    refine ⟨_, plan_of_stages hi' hu ho, rfl, rfl, fun password keys => ?_⟩
    simp only [planOf, Setting.put, Plan.apiServerOf_put r i.family i.name f hv hin]
    rfl
  | persistenceAgent f =>
    refine ⟨_, plan_of_stages hi' hu ho, rfl, rfl, fun password keys => ?_⟩
    simp only [planOf, Setting.put, Plan.persistenceAgentOf_put r i.family f hv hin]
    rfl
  | scheduledWorkflow f =>
    refine ⟨_, plan_of_stages hi' hu ho, rfl, rfl, fun password keys => ?_⟩
    simp only [planOf, Setting.put, Plan.scheduledWorkflowOf_put r i.family f hv hin]
    rfl
  | userInterface f =>
    exact ⟨_, plan_of_stages hi' (userInterfacePlan_put f hv hu) ho, rfl, rfl, fun _ _ => rfl⟩
  | mlmd f =>
    obtain ⟨block, hblock, hin⟩ := hin
    refine ⟨_, plan_of_stages hi' hu ho, rfl, rfl, fun password keys => ?_⟩
    simp only [planOf, Setting.put, hblock, Option.map_some, Plan.mlmdOf_put r i.family f hv hin]
    rfl
  | crdViewer f =>
    refine ⟨_, plan_of_stages hi' hu ho, rfl, rfl, fun password keys => ?_⟩
    simp only [planOf, Setting.put, Plan.imageOnlyOf_put r .crdViewer f hv hin]
    rfl
  | visualizationServer f =>
    refine ⟨_, plan_of_stages hi' hu ho, rfl, rfl, fun password keys => ?_⟩
    simp only [planOf, Setting.put, Plan.imageOnlyOf_put r .visualizationServer f hv hin]
    rfl
  | workflowController f =>
    refine ⟨_, plan_of_stages hi' hu ho, rfl, rfl, fun password keys => ?_⟩
    simp only [planOf, Setting.put, Plan.imageOnlyOf_put r .workflowController f hv hin]
    rfl
  | mariaDb f =>
    refine ⟨_, plan_of_stages hi' hu ho, ?_, rfl, fun password keys => ?_⟩
    · exact Plan.databaseOf_put_credentials r i.name i.space f a.spec.database
    · let x := (a.planOf r i userInterface storage).complete password keys
      exact congrArg (fun d => { x with parameters.database := d })
        (Plan.databaseOf_put r i.name i.space f hv hin password.2)
  | minio f =>
    obtain ⟨storage', ho', hkeys, hstorage⟩ := Plan.storageOf_put i.name i.space f hv ho hin
    refine ⟨_, plan_of_stages hi' hu ho', rfl, hkeys, fun password keys => ?_⟩
    let x := (a.planOf r i userInterface storage).complete password keys
    exact congrArg (fun s => { x with parameters.objectStorage := s }) (hstorage keys.2)

/-! ## Resolving -/

theorem blockIfAbsent_map {α β : Type} (name : String) (g : α → β) (block : Option α) :
    blockIfAbsent name (block.map g) = blockIfAbsent name block := by
  rw [blockIfAbsent, Option.isNone_map, blockIfAbsent]

/-- Setting a field fills in no block and leaves none out. -/
theorem defaultedBlocks_put (f : Setting k) (v : Option k.Value) {i : Identity}
    {userInterface userInterface' : Option Parameters.UserInterface} (hi : a.identify = .ok i)
    (hu : a.userInterfacePlan i.name = .ok userInterface)
    (hu' : (f.put v a).userInterfacePlan i.name = .ok userInterface') :
    (f.put v a).defaultedBlocks = a.defaultedBlocks := by
  simp only [defaultedBlocks, identify_put, hi, hu, hu']
  cases f with
  | mariaDb f =>
    have hsource : a.spec.database.source.modify (f.put v) = .managed none ↔
        a.spec.database.source = .managed none := by
      cases a.spec.database.source with
      | external e => simp [DatabaseSource.modify]
      | managed block => simp [DatabaseSource.modify]
    simp only [Setting.put, hsource]
  | minio f => rfl
  | _ =>
    simp only [Setting.put, blockIfAbsent_map]
    rfl

end Application

/-- A plan that is completed as another one is established by the same dialogue. -/
theorem Plan.Alters.establish {change : Parameters → Parameters} {p p' : Plan}
    (h : p.Alters change p') (fresh : Material) :
    p'.establish fresh = (p.establish fresh).map (Except.map (.alter change)) := by
  rw [Plan.establish, Plan.establish, h.password, h.keys, map_thenTry]
  refine congrArg _ (funext fun password => ?_)
  rw [map_thenTry]
  refine congrArg _ (funext fun keys => ?_)
  rw [h.complete]
  rfl

namespace Application

variable {r : Registry} {a : Application} {p : Plan}

/-- The resolution of an application with a field set is that of the application, but for the slot
of the field. -/
theorem resolve_put (f : Setting k) (hin : f.In a) (hv : k.Effective v) (hp : a.plan r = .ok p)
    (fresh : Material) : (f.put (some v) a).resolve r fresh =
      (a.resolve r fresh).map (Except.map (.alter fun q => f.write v q)) := by
  obtain ⟨p', hp', halters⟩ := plan_put f hin hv hp
  have hblocks : (f.put (some v) a).defaultedBlocks = a.defaultedBlocks := by
    obtain ⟨i, _, _, hi, hu, -⟩ := exists_stages hp
    obtain ⟨i', _, _, hi', hu', -⟩ := exists_stages hp'
    obtain rfl : i = i' := Except.ok.inj (hi.symm.trans ((identify_put f _ a).symm.trans hi'))
    exact defaultedBlocks_put f (some v) hi hu hu'
  have hname : (f.put (some v) a).metadata = a.metadata := by cases f <;> rfl
  rw [resolve, resolve, map_tellAll, hblocks, hname, hp, hp']
  exact congrArg _ (halters.establish fresh)

/-- Setting a field commutes with resolution.  Where an application is resolved, and the block of a
field is in it, it is resolved with any effective value of the field as well.  The record is the
same, but for the slot of the field, which has the value as it is; of the name and the database of
a managed database's user and of the bucket of managed object storage the connection has a copy.
The store is asked the same, and nothing is assumed of its answers. -/
theorem set_commutes_with_resolve {σ : Type}
    (answer : (call : StoreCall) → σ → call.Answer × σ) (r : Registry) (fresh : Material)
    (a : Application) (s : σ) {x : Resolution}
    (hx : (run answer (a.resolve r fresh) s).result = .ok x)
    {k : FieldKind} (f : Setting k) (hin : f.In a) (v : k.Value) (hv : k.Effective v) :
    let before := run answer (a.resolve r fresh) s
    let after := run answer ((f.put (some v) a).resolve r fresh) s
    after.result = .ok { x with parameters := f.write v x.parameters } ∧
      after.state = before.state ∧ after.events = before.events ∧
      questions answer ((f.put (some v) a).resolve r fresh) s =
        questions answer (a.resolve r fresh) s := by
  obtain ⟨es, hgives, -⟩ := exists_gives_run answer (a.resolve r fresh) s
  rw [hx] at hgives
  obtain ⟨p, -, -, -, -, hp, -⟩ := resolve_gives_ok_iff.mp hgives
  intro before after
  have hafter : after = ⟨before.result.map (.alter fun q => f.write v q), before.events,
      before.state⟩ := by
    show run answer ((f.put (some v) a).resolve r fresh) s = _
    rw [resolve_put f hin hv hp, run_map]
  have hbefore : before.result = .ok x := hx
  refine ⟨?_, by rw [hafter], by rw [hafter], ?_⟩
  · rw [hafter, hbefore]
    rfl
  · rw [resolve_put f hin hv hp, questions_map]

theorem set_bucket_commutes : ∃ x,
    (run SecretStore.answer (plain.resolve ⟨∅⟩ (.repeating 0)) ⟨[]⟩).result =
      .ok x ∧
    (Setting.minio .bucket).In plain ∧ FieldKind.text.Effective "artifacts" ∧
    (run SecretStore.answer (((Setting.minio .bucket).put (some "artifacts") plain).resolve ⟨∅⟩
      (.repeating 0)) ⟨[]⟩).result =
      .ok { x with
        parameters.objectStorage :=
          { managed := x.parameters.objectStorage.managed.map ({ · with bucket := "artifacts" })
            connection :=
              { x.parameters.objectStorage.connection with bucket := "artifacts" } } } := by
  let pass := plain.resolve ⟨∅⟩ (.repeating 0)
  obtain ⟨x, hx⟩ : ∃ x, (run SecretStore.answer pass ⟨[]⟩).result.toOption = some x :=
    Option.isSome_iff_exists.mp (by decide +kernel)
  have hx := Except.toOption_eq_some.mp hx
  have hv : FieldKind.text.Effective "artifacts" := by
    show "artifacts" ≠ ""
    decide
  obtain ⟨hresult, -⟩ := set_commutes_with_resolve SecretStore.answer ⟨∅⟩
    (.repeating 0) plain ⟨[]⟩ hx (.minio .bucket) rfl "artifacts" hv
  exact ⟨x, hx, rfl, hv, hresult⟩

end Application

end PipelinesOperator
