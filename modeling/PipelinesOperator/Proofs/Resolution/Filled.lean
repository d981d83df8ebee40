import PipelinesOperator.Proofs.Config.Registry
import PipelinesOperator.Proofs.Race.Play
import PipelinesOperator.Proofs.Resolution.Choice
import PipelinesOperator.Proofs.Resolution.Setting
import PipelinesOperator.Proofs.Resolution.Texts

/-!
# Nothing is left open

Of the parameters that a resolution comes to, every text is filled in, unless it says something
about which the operator has no opinion: the version and the engine, what an external service or a
secret of the user's is called, and the quantities that the user supplied.  This is told for the
parameters as they are written, so that no text is overlooked: an empty text is followed through the
records, and in each of them there is a reason why it cannot be there.

## Main definitions

* `Workload`: the components that are run with requirements, with those that the user supplies and
  those that they are given
* `Parameters.MayBeBlank`: the paths behind which there may be an empty text
* `Base64.IsFilled`: the base64 of one byte at least

## Main results

* `Workload.given_of_plan`: a component has the requirements of the user or the usual ones
* `Plan.apiServerOf_filled`, `Plan.databaseOf_address_ne`, `Plan.storageOf_address_ne`: the texts of
  a block
* `Application.mayBeBlank_of_blankAt`: where the parameters of a plan have empty texts
* `Application.nothing_left_open`: the same for resolutions, with their numbers and credentials
-/

namespace PipelinesOperator

open Dialogue Shape

/-- The components that are run with requirements of their own. -/
inductive Workload where
  | apiServer
  | persistenceAgent
  | scheduledWorkflow
  | userInterface
  | envoy
  | grpc
  | writer
  | mariaDb
  | minio

namespace Workload

/-- The keys that lead to a component in the parameters. -/
def keys : Workload → List String
  | apiServer => ["apiServer"]
  | persistenceAgent => ["persistenceAgent"]
  | scheduledWorkflow => ["scheduledWorkflow"]
  | userInterface => ["mlPipelineUi"]
  | envoy => ["mlmd", "envoy"]
  | grpc => ["mlmd", "grpc"]
  | writer => ["mlmd", "writer"]
  | mariaDb => ["database", "managed"]
  | minio => ["objectStorage", "managed"]

/-- The requirements that the user supplies. -/
def supplied (a : Application) : Workload → Option Requirements
  | apiServer => a.spec.components.apiServer.bind (·.resources)
  | persistenceAgent => a.spec.components.persistenceAgent.bind (·.resources)
  | scheduledWorkflow => a.spec.components.scheduledWorkflow.bind (·.resources)
  | userInterface => a.spec.components.userInterface.bind (·.resources)
  | envoy => (a.spec.components.mlmd.bind (·.envoy)).bind (·.resources)
  | grpc => (a.spec.components.mlmd.bind (·.grpc)).bind (·.resources)
  | writer => (a.spec.components.mlmd.bind (·.writer)).bind (·.resources)
  | mariaDb => a.spec.database.source.block?.bind (·.resources)
  | minio => (a.spec.objectStorage.source.bind (·.block?)).bind (·.resources)

/-- The requirements of a component of the parameters, if it is one of them. -/
def given (q : Parameters) : Workload → Option Requirements
  | apiServer => some q.apiServer.resources
  | persistenceAgent => some q.persistenceAgent.resources
  | scheduledWorkflow => some q.scheduledWorkflow.resources
  | userInterface => q.userInterface.map (·.resources)
  | envoy => q.mlmd.map (·.envoy.resources)
  | grpc => q.mlmd.map (·.grpc.resources)
  | writer => q.mlmd.map (·.writer.resources)
  | mariaDb => q.database.managed.map (·.resources)
  | minio => q.objectStorage.managed.map (·.resources)

/-- The requirements of a component for which the user supplies none. -/
def usual : Workload → Requirements
  | apiServer => .apiServer
  | persistenceAgent => .persistenceAgent
  | scheduledWorkflow => .scheduledWorkflow
  | userInterface | envoy | grpc | writer => .small
  | mariaDb => .mariaDb
  | minio => .minio

end Workload

/-- The base64 of some bytes, one at least. -/
def Base64.IsFilled (text : String) : Prop :=
  text ≠ "" ∧ ∃ bytes, bytes ≠ [] ∧ decode? text.toList = some bytes

/-- The paths behind which the parameters of an application may have an empty text. -/
inductive Parameters.MayBeBlank (a : Application) (q : Parameters) : List String → Prop where
  | version : MayBeBlank a q ["dspVersion"]
  | driver : MayBeBlank a q ["engineDriver"]
  | database {e : ExternalDatabase} (external : a.spec.database.source = .external e)
      {key : String} (adopted : key ∈ ["host", "port", "username", "dbName"]) :
      MayBeBlank a q ["database", "connection", key]
  | storage {e : ExternalStorage} (external : a.spec.objectStorage.source = some (.external e))
      {key : String} (adopted : key ∈ ["host", "port", "scheme", "bucket"]) :
      MayBeBlank a q ["objectStorage", "connection", key]
  | password (user : q.database.connection.credentials.ownership = .user)
      {key : String} (named : key ∈ ["name", "primaryKey", "secondaryKey"]) :
      MayBeBlank a q ["database", "connection", "credentials", key]
  | keys (user : q.objectStorage.connection.credentials.ownership = .user)
      {key : String} (named : key ∈ ["name", "primaryKey", "secondaryKey"]) :
      MayBeBlank a q ["objectStorage", "connection", "credentials", key]
  | resources {w : Workload} (supplied : (w.supplied a).isSome)
      {side : String} (inRequirements : side ∈ ["limits", "requests"])
      {amount : String} (inAmount : amount ∈ ["cpu", "memory"]) :
      MayBeBlank a q (w.keys ++ ["resources", side, amount])

/-! ## Requirements -/

theorem Requirements.of_full {requestCpu requestMemory limitCpu limitMemory : String}
    (h : ∀ s ∈ [requestCpu, requestMemory, limitCpu, limitMemory], s ≠ "") :
    (of requestCpu requestMemory limitCpu limitMemory).Full := by
  simp only [List.forall_mem_cons] at h
  obtain ⟨hrequestCpu, hrequestMemory, hlimitCpu, hlimitMemory, -⟩ := h
  exact
    { requests := ⟨_, rfl, ⟨_, rfl, hrequestCpu⟩, _, rfl, hrequestMemory⟩
      limits := ⟨_, rfl, ⟨_, rfl, hlimitCpu⟩, _, rfl, hlimitMemory⟩ }

/-- Requirements of a block that need not be there. -/
theorem getD_resources {β : Type} (block : Option β) {default : β}
    (resources : β → Option Requirements) (h : resources default = none) (usual : Requirements) :
    (resources (block.getD default)).getD usual = (block.bind resources).getD usual := by
  cases block with
  | none =>
    rw [Option.getD_none, h]
    rfl
  | some b => rfl

namespace Workload

theorem usual_full (w : Workload) : w.usual.Full := by
  cases w <;> exact Requirements.of_full (by decide)

variable {r : Registry} {a : Application} {p : Plan} {password keys : Credential × Origin}

/-- A component of the parameters has the requirements that the user supplies, or the usual ones. -/
theorem given_of_plan (hp : a.plan r = .ok p) {w : Workload} {q : Requirements}
    (h : w.given (p.complete password keys).parameters = some q) :
    q = (w.supplied a).getD w.usual := by
  obtain ⟨i, userInterface, storage, -, hu, ho, rfl⟩ := Application.exists_stages hp
  cases w with
  | apiServer =>
    obtain rfl := Option.some.inj h
    exact getD_resources _ ApiServer.resources rfl _
  | persistenceAgent =>
    obtain rfl := Option.some.inj h
    exact getD_resources _ PersistenceAgent.resources rfl _
  | scheduledWorkflow =>
    obtain rfl := Option.some.inj h
    exact getD_resources _ ScheduledWorkflow.resources rfl _
  | userInterface =>
    obtain ⟨u, rfl, rfl⟩ := Option.map_eq_some_iff.mp h
    obtain ⟨b, hb, -, rfl⟩ := Application.userInterfacePlan_eq_some hu
    simp only [supplied, hb]
    rfl
  | envoy =>
    obtain ⟨m, hm, rfl⟩ := Option.map_eq_some_iff.mp h
    obtain ⟨block, hblock, rfl⟩ := Option.map_eq_some_iff.mp hm
    simp only [supplied, hblock]
    exact getD_resources block.envoy MlmdPart.resources rfl _
  | grpc =>
    obtain ⟨m, hm, rfl⟩ := Option.map_eq_some_iff.mp h
    obtain ⟨block, hblock, rfl⟩ := Option.map_eq_some_iff.mp hm
    simp only [supplied, hblock]
    exact getD_resources block.grpc MlmdGrpc.resources rfl _
  | writer =>
    obtain ⟨m, hm, rfl⟩ := Option.map_eq_some_iff.mp h
    obtain ⟨block, hblock, rfl⟩ := Option.map_eq_some_iff.mp hm
    simp only [supplied, hblock]
    exact getD_resources block.writer MlmdPart.resources rfl _
  | mariaDb =>
    obtain ⟨m, hm, rfl⟩ := Option.map_eq_some_iff.mp h
    have hm : (Plan.databaseOf r i.name i.space a.spec.database).managed = some m := hm
    rw [Plan.databaseOf] at hm
    cases hsource : a.spec.database.source with
    | external e =>
      rw [hsource] at hm
      cases hm
    | managed block =>
      rw [hsource] at hm
      obtain rfl := Option.some.inj hm
      simp only [supplied, hsource]
      exact getD_resources block MariaDb.resources rfl _
  | minio =>
    obtain ⟨m, hm, rfl⟩ := Option.map_eq_some_iff.mp h
    rcases Plan.storageOf_eq_ok.mp ho with ⟨e, -, rfl⟩ | ⟨b, hsource, -, rfl⟩
    · cases hm
    · obtain rfl := Option.some.inj hm
      simp only [supplied, hsource]
      rfl

end Workload

/-! ## Texts of the blocks -/

theorem append_ne_empty {s : String} (h : s ≠ "") (t : String) : s ++ t ≠ "" :=
  fun heq => h (String.append_eq_empty_iff.mp heq).1

theorem endpoint_ne (scheme host port : String) : endpoint scheme host port ≠ "" := by
  have h (t : String) : scheme ++ "://" ++ t ≠ "" := by
    intro heq
    have hsep := (String.append_eq_empty_iff.mp (String.append_eq_empty_iff.mp heq).1).2
    exact absurd hsep (by decide)
  rw [endpoint]
  split
  · exact h host
  · rw [String.append_assoc, String.append_assoc]
    exact h _

theorem serviceHost_ne {service : String} (h : service ≠ "") (name space : String) :
    Names.serviceHost service name space ≠ "" := by
  simp only [Names.serviceHost]
  exact append_ne_empty (append_ne_empty (append_ne_empty (append_ne_empty
    (append_ne_empty h _) _) _) _) _

theorem Registry.Built.imageAt_ne {r : Registry} (h : r.Built) (image : Option String)
    (path : ImagePath) : r.imageAt image path ≠ "" := by
  rw [imageAt]
  cases hs : nonEmpty image with
  | none => exact h.lookup_ne path.text
  | some s => exact (nonEmpty_eq_some.mp hs).2

namespace CredentialReference

variable {space name : String} {path : List String}

/-- The operator's own references have no empty texts. -/
theorem database_none_filled (hspace : space ≠ "") : (database space name none).Filled where
  space := hspace
  name := append_ne_empty (by decide) name
  primaryKey := show Names.passwordKey ≠ "" by decide
  secondaryKey := by simp [database]

theorem storage_none_filled (hspace : space ≠ "") : (storage space name none).Filled where
  space := hspace
  name := append_ne_empty (by decide) name
  primaryKey := show Names.accessKey ≠ "" by decide
  secondaryKey := by simp [storage, Names.secretKey]

/-- The reference of a password has no empty text, but for the name and the key of one that the
user answers for. -/
theorem database_blankAt (hspace : space ≠ "") {ref : CredentialReference}
    (href : ∃ custom, ref = database space name custom)
    (h : CredentialReference.shape.BlankAt ref path) :
    ref.ownership = .user ∧ ∃ key ∈ ["name", "primaryKey", "secondaryKey"], path = [key] := by
  obtain ⟨custom, rfl⟩ := href
  cases custom with
  | none => exact absurd h (database_none_filled hspace).not_blankAt
  | some secret => exact ⟨rfl, exists_key_of_blankAt hspace h⟩

theorem storage_blankAt (hspace : space ≠ "") {ref : CredentialReference}
    (href : ∃ custom, ref = storage space name custom)
    (h : CredentialReference.shape.BlankAt ref path) :
    ref.ownership = .user ∧ ∃ key ∈ ["name", "primaryKey", "secondaryKey"], path = [key] := by
  obtain ⟨custom, rfl⟩ := href
  cases custom with
  | none => exact absurd h (storage_none_filled hspace).not_blankAt
  | some secret => exact ⟨rfl, exists_key_of_blankAt hspace h⟩

end CredentialReference

namespace Plan

variable {r : Registry} {family : Family} {name space : String}

theorem apiServerOf_filled (hr : r.Built) (block : Option ApiServer) :
    (apiServerOf r family name block).Filled := by
  have hscript : (apiServerOf r family name block).artifactScriptConfigMap.name ≠ "" ∧
      (apiServerOf r family name block).artifactScriptConfigMap.key ≠ "" := by
    rw [apiServerOf]
    cases hm : (block.getD {}).artifactScriptConfigMap.filter (·.name ≠ "") with
    | none => exact ⟨append_ne_empty (by decide) name, show Names.artifactScriptKey ≠ "" by decide⟩
    | some m =>
      obtain ⟨-, hnamed⟩ := Option.filter_eq_some_iff.mp hm
      exact ⟨of_decide_eq_true hnamed, orDefault_ne (by decide) _⟩
  exact
    { image := hr.imageAt_ne _ _
      artifactImage := hr.imageAt_ne _ _
      cacheImage := hr.imageAt_ne _ _
      moveResultsImage := hr.imageAt_ne _ _
      scriptName := hscript.1
      scriptKey := hscript.2
      terminateStatus := orDefault_ne (by decide) _ }

/-- The parameters of a managed database have no empty text of their own. -/
theorem databaseOf_managed_ne (hr : r.Built) {d : Database} {m : Parameters.MariaDb}
    (h : (databaseOf r name space d).managed = some m) :
    m.image ≠ "" ∧ m.username ≠ "" ∧ m.dbName ≠ "" ∧ m.pvcSize.text ≠ "" := by
  rw [databaseOf] at h
  split at h
  · cases h
  · obtain rfl := Option.some.inj h
    exact ⟨hr.imageAt_ne _ _, orDefault_ne (by decide) _, orDefault_ne (by decide) _,
      quantityOr_text_ne (by decide) _⟩

/-- A database is external, or it is reached by texts that are not empty. -/
theorem databaseOf_address_ne (r : Registry) (name space : String) (d : Database) :
    (∃ e, d.source = .external e) ∨
      ∀ origin, ∀ t ∈ ((databaseOf r name space d).parameters origin).connection.address,
        t.2 ≠ "" := by
  obtain ⟨source, check⟩ := d
  cases source with
  | external e => exact .inl ⟨e, rfl⟩
  | managed block =>
    refine .inr fun origin => ?_
    have hpipelines : Names.pipelines ≠ "" := by decide
    have hport : Names.mariaDbPort ≠ "" := by decide
    simp only [DatabasePlan.parameters, Parameters.DatabaseConnection.address,
      List.forall_mem_cons]
    exact ⟨serviceHost_ne (by decide) name space, hport, orDefault_ne hpipelines _,
      orDefault_ne hpipelines _, fun _ h => absurd h List.not_mem_nil⟩

/-- The parameters of managed object storage have no empty text of their own. -/
theorem storageOf_managed_ne {o : ObjectStorage} {s : StoragePlan}
    (h : storageOf name space o = .ok s) {m : Parameters.Minio} (hm : s.managed = some m) :
    m.image ≠ "" ∧ m.bucket ≠ "" ∧ m.pvcSize.text ≠ "" := by
  rcases storageOf_eq_ok.mp h with ⟨e, -, rfl⟩ | ⟨b, -, himage, rfl⟩
  · cases hm
  · obtain rfl := Option.some.inj hm
    exact ⟨himage, orDefault_ne (by decide) _, quantityOr_text_ne (by decide) _⟩

/-- Object storage is external, or it is reached by texts that are not empty. -/
theorem storageOf_address_ne {o : ObjectStorage} {s : StoragePlan}
    (h : storageOf name space o = .ok s) : (∃ e, o.source = some (.external e)) ∨
      ∀ origin, ∀ t ∈ (s.parameters origin).connection.address, t.2 ≠ "" := by
  rcases storageOf_eq_ok.mp h with ⟨e, he, -⟩ | ⟨b, -, -, rfl⟩
  · exact .inl ⟨e, he⟩
  · refine .inr fun origin => ?_
    have hpipelines : Names.pipelines ≠ "" := by decide
    have hport : Names.minioPort ≠ "" := by decide
    have hscheme : Names.minioScheme ≠ "" := by decide
    simp only [StoragePlan.parameters, Parameters.StorageConnection.address,
      List.forall_mem_cons]
    exact ⟨serviceHost_ne (by decide) name space, hport, hscheme, orDefault_ne hpipelines _,
      fun _ h => absurd h List.not_mem_nil⟩

end Plan

namespace Application

open Parameters

variable {r : Registry} {a : Application} {p : Plan} {password keys : Credential × Origin}
  {path : List String}

/-- An empty text in requirements is one that the user supplied. -/
theorem mayBeBlank_of_inResources (hp : a.plan r = .ok p) {w : Workload} {q : Requirements}
    (hq : w.given (p.complete password keys).parameters = some q) (h : InResources q path) :
    MayBeBlank a (p.complete password keys).parameters (w.keys ++ path) := by
  obtain ⟨behind, rfl, h⟩ := h
  obtain rfl := Workload.given_of_plan hp hq
  cases hs : w.supplied a with
  | none =>
    rw [hs] at h
    exact absurd h w.usual_full.not_blankAt
  | some supplied =>
    obtain ⟨side, hside, amount, hamount, rfl⟩ := Requirements.exists_keys_of_blankAt h
    exact .resources (by rw [hs]; rfl) hside hamount

theorem mayBeBlank_of_mlmd (hr : r.Built) (hp : a.plan r = .ok p) {m : Parameters.Mlmd}
    (hm : (p.complete password keys).parameters.mlmd = some m)
    (h : Parameters.Mlmd.shape.BlankAt m path) :
    MayBeBlank a (p.complete password keys).parameters ("mlmd" :: path) := by
  have hgiven {part : Parameters.Mlmd → Requirements} :
      (p.complete password keys).parameters.mlmd.map part = some (part m) := by rw [hm]; rfl
  obtain ⟨i, _, _, -, -, -, rfl⟩ := exists_stages hp
  obtain ⟨block, -, rfl⟩ := Option.map_eq_some_iff.mp hm
  rcases blankIn_of_blankAt_struct h with ⟨behind, rfl, hb⟩ | ⟨behind, rfl, hb⟩ |
    ⟨behind, rfl, hb⟩ | ⟨behind, rfl, hb⟩ | ⟨⟨⟩⟩
  · exact absurd hb not_blankAt_flag
  · exact mayBeBlank_of_inResources (w := .envoy) hp hgiven
      (MlmdPart.inResources (hr.imageAt_ne _ _) hb)
  · have hport : orDefault (some (block.grpc.getD {}).port) Names.mlmdPort ≠ "" :=
      orDefault_ne (by decide) _
    exact mayBeBlank_of_inResources (w := .grpc) hp hgiven
      (MlmdGrpc.inResources (hr.imageAt_ne _ _) hport hb)
  · exact mayBeBlank_of_inResources (w := .writer) hp hgiven
      (MlmdPart.inResources (hr.imageAt_ne _ _) hb)

/-- An empty text in the parameters of a database.  It was adopted, or is in a reference of the
user's. -/
theorem mayBeBlank_of_database (hr : r.Built) (hp : a.plan r = .ok p)
    (h : Parameters.Database.shape.BlankAt (p.complete password keys).parameters.database path) :
    MayBeBlank a (p.complete password keys).parameters ("database" :: path) := by
  obtain ⟨i, _, _, hi, -, -, rfl⟩ := exists_stages hp
  obtain ⟨-, ⟨-, hspace⟩, -⟩ := identify_eq_ok.mp hi
  rcases blankIn_of_blankAt_struct h with ⟨behind, rfl, hb⟩ | ⟨behind, rfl, hb⟩ | ⟨⟨⟩⟩
  · obtain ⟨m, hm, hb⟩ := blankAt_optional.mp hb
    obtain ⟨himage, husername, hdbName, hsize⟩ := Plan.databaseOf_managed_ne hr hm
    exact mayBeBlank_of_inResources (w := .mariaDb) hp (Option.map_eq_some_iff.mpr ⟨m, hm, rfl⟩)
      (MariaDb.inResources himage husername hdbName hsize hb)
  · have hsecret : (CredentialReference.database i.space i.name none).Filled :=
      CredentialReference.database_none_filled hspace
    rw [← Plan.databaseOf_operatorSecret r i.name i.space a.spec.database] at hsecret
    rcases DatabaseConnection.cases_of_blankAt hsecret hb with ⟨key, hkey, rfl⟩ | ⟨last, rfl, hb⟩
    · rcases Plan.databaseOf_address_ne r i.name i.space a.spec.database with ⟨e, he⟩ | haddress
      · exact .database he (List.mem_map_of_mem (f := Prod.fst) hkey)
      · exact absurd rfl (haddress _ _ hkey)
    · have href := Plan.databaseOf_credentials r i.name i.space a.spec.database
      obtain ⟨huser, key, hkey, rfl⟩ := CredentialReference.database_blankAt hspace href hb
      exact .password huser hkey

/-- An empty text in the parameters of object storage.  It is in the address or in the user's
secret, since the operator's own is never blank. -/
theorem mayBeBlank_of_objectStorage (hp : a.plan r = .ok p)
    (h : Parameters.ObjectStorage.shape.BlankAt
      (p.complete password keys).parameters.objectStorage path) :
    MayBeBlank a (p.complete password keys).parameters ("objectStorage" :: path) := by
  obtain ⟨i, _, storage, hi, -, ho, rfl⟩ := exists_stages hp
  obtain ⟨-, ⟨-, hspace⟩, -⟩ := identify_eq_ok.mp hi
  rcases blankIn_of_blankAt_struct h with ⟨behind, rfl, hb⟩ | ⟨behind, rfl, hb⟩ | ⟨⟨⟩⟩
  · obtain ⟨m, hm, hb⟩ := blankAt_optional.mp hb
    obtain ⟨himage, hbucket, hsize⟩ := Plan.storageOf_managed_ne ho hm
    exact mayBeBlank_of_inResources (w := .minio) hp (Option.map_eq_some_iff.mpr ⟨m, hm, rfl⟩)
      (Minio.inResources himage hbucket hsize hb)
  · have hsecret : storage.operatorSecret.Filled :=
      Plan.storageOf_operatorSecret ho ▸ CredentialReference.storage_none_filled hspace
    rcases StorageConnection.cases_of_blankAt (endpoint_ne _ _ _) hsecret hb with
      ⟨key, hkey, rfl⟩ | ⟨last, rfl, hb⟩
    · rcases Plan.storageOf_address_ne ho with ⟨e, he⟩ | haddress
      · exact .storage he (List.mem_map_of_mem (f := Prod.fst) hkey)
      · exact absurd rfl (haddress _ _ hkey)
    · have href := Plan.storageOf_credentials ho
      obtain ⟨huser, key, hkey, rfl⟩ := CredentialReference.storage_blankAt hspace href hb
      exact .keys huser hkey

/-- Every empty text of the parameters is behind one of the paths. -/
theorem mayBeBlank_of_blankAt (hr : r.Built) (hp : a.plan r = .ok p)
    (h : Parameters.shape.BlankAt (p.complete password keys).parameters path) :
    MayBeBlank a (p.complete password keys).parameters path := by
  obtain ⟨i, userInterface, storage, hi, hu, -, rfl⟩ := exists_stages hp
  obtain ⟨⟨-, hname⟩, ⟨-, hspace⟩, -⟩ := identify_eq_ok.mp hi
  rcases blankIn_of_blankAt_struct h with ⟨behind, rfl, hb⟩ | ⟨behind, rfl, hb⟩ |
    ⟨behind, rfl, hb⟩ | ⟨behind, rfl, hb⟩ | ⟨behind, rfl, hb⟩ | ⟨behind, rfl, hb⟩ |
    ⟨behind, rfl, hb⟩ | ⟨behind, rfl, hb⟩ | ⟨behind, rfl, hb⟩ | ⟨behind, rfl, hb⟩ |
    ⟨behind, rfl, hb⟩ | ⟨behind, rfl, hb⟩ | ⟨behind, rfl, hb⟩ | ⟨behind, rfl, hb⟩ |
    ⟨behind, rfl, hb⟩ | ⟨behind, rfl, hb⟩ | ⟨⟨⟩⟩
  · exact absurd (blankAt_text.mp hb).2 hname
  · exact absurd (blankAt_text.mp hb).2 hspace
  · obtain ⟨rfl, -⟩ := blankAt_text.mp hb
    exact .version
  · obtain ⟨rfl, -⟩ := blankAt_text.mp hb
    exact .driver
  · exact absurd (blankAt_text.mp hb).2 (append_ne_empty (by decide) _)
  · exact absurd (blankAt_text.mp hb).2 (hr.lookup_ne _)
  · exact mayBeBlank_of_inResources (w := .apiServer) hp rfl
      ((Plan.apiServerOf_filled hr _).inResources hb)
  · exact mayBeBlank_of_inResources (w := .persistenceAgent) hp rfl
      (PersistenceAgent.inResources (hr.imageAt_ne _ _) hb)
  · exact mayBeBlank_of_inResources (w := .scheduledWorkflow) hp rfl
      (ScheduledWorkflow.inResources (hr.imageAt_ne _ _) (orDefault_ne (by decide) _) hb)
  · obtain ⟨u, hu', hb⟩ := blankAt_optional.mp hb
    obtain rfl : userInterface = some u := hu'
    obtain ⟨b, -, himage, rfl⟩ := userInterfacePlan_eq_some hu
    have hconfig : orDefault b.configMapName (Names.userInterfaceConfigMap i.name) ≠ "" :=
      orDefault_ne (append_ne_empty (by decide) _) _
    exact mayBeBlank_of_inResources (w := .userInterface) hp rfl
      (UserInterface.inResources himage hconfig hb)
  · obtain ⟨m, hm, hb⟩ := blankAt_optional.mp hb
    exact mayBeBlank_of_mlmd hr hp hm hb
  · exact absurd hb (ImageOnly.not_blankAt (hr.imageAt_ne _ _))
  · exact absurd hb (ImageOnly.not_blankAt (hr.imageAt_ne _ _))
  · exact absurd hb (ImageOnly.not_blankAt (hr.imageAt_ne _ _))
  · exact mayBeBlank_of_database hr hp hb
  · exact mayBeBlank_of_objectStorage hp hb

/-! ## Credentials -/

theorem isFilled_encode {bytes : List UInt8} (h : bytes ≠ []) :
    Base64.IsFilled (String.ofList (Base64.encode bytes)) := by
  refine ⟨fun hempty => h ?_, bytes, h, by rw [String.toList_ofList, Base64.decode?_encode]⟩
  have hdecode : Base64.decode? (Base64.encode bytes) = some bytes := Base64.decode?_encode bytes
  rw [String.ofList_eq_empty_iff.mp hempty] at hdecode
  exact (Option.some.inj hdecode).symm

/-- A credential that was found or stored is held by a secret, and no piece of it is empty. -/
theorem exists_holds_of_established {fresh : Material} {es : List StoreExchange} {x : Resolution}
    {g : Established} (h : (a.resolve r fresh).Gives es (.ok x)) (hg : g ∈ x.established) :
    g.credential.Whole ∧ ∃ fields, g.reference.Holds fields g.credential := by
  obtain ⟨hsound, _, -, hcourse⟩ := exists_course_of_established h hg
  obtain ⟨fields, hextract, -⟩ := hcourse.exists_fields hsound
  obtain ⟨hholds, hwhole⟩ := CredentialReference.extract_eq_ok.mp hextract
  exact ⟨hwhole, fields, hholds⟩

/-- Keys of object storage come in pairs. -/
theorem exists_secondary_of_resolve {fresh : Material} {es : List StoreExchange} {x : Resolution}
    (h : (a.resolve r fresh).Gives es (.ok x)) :
    ∃ bytes, bytes ≠ [] ∧ x.keys.secondary = some bytes := by
  have hg : x.storageKeys ∈ x.established := Resolution.mem_established.mpr (.inr rfl)
  obtain ⟨hwhole, fields, hholds⟩ := exists_holds_of_established h hg
  obtain ⟨p, _, _, password, keys, hp, -, -, -, rfl⟩ := resolve_gives_ok_iff.mp h
  obtain ⟨custom, hreference⟩ := plan_storage hp
  have hsecondary : p.objectStorage.credentials.secondaryKey.map fields.get? =
      keys.1.secondary.map some := hholds.secondary
  have hwhole : keys.1.secondary ≠ some [] := hwhole.secondary
  cases hkeys : keys.1.secondary with
  | none =>
    rw [hkeys, hreference] at hsecondary
    cases custom with
    | none | some => cases hsecondary
  | some bytes =>
    rw [hkeys] at hwhole
    exact ⟨bytes, fun hempty => hwhole (congrArg some hempty), hkeys⟩

/-! ## The whole resolution -/

/-- A resolution leaves nothing open.  If the registry was built from a configuration or from pairs,
then no text of the parameters is empty, but for the version and the engine, for what was adopted
from an external service, for the names and keys of a secret of the user's, and for quantities that
the user supplied.  The number of workers and the lifetime of connections are positive, requirements
that the user did not supply are full, and there is something in each piece of the credentials.
Nothing is assumed of the answers of the store. -/
theorem nothing_left_open (hr : r.Built) {fresh : Material} {es : List StoreExchange}
    {x : Resolution} (h : (a.resolve r fresh).Gives es (.ok x)) :
    (∀ path, (Parameters.shape.write x.parameters).at? path = some (.str "") →
      x.parameters.MayBeBlank a path) ∧
    0 < x.parameters.persistenceAgent.numWorkers ∧
    0 < x.parameters.apiServer.dbConfigConMaxLifetimeSec ∧
    (∀ (w : Workload) (q : Requirements), w.given x.parameters = some q → w.supplied a = none →
      q.Full) ∧
    Base64.IsFilled x.password.primaryText ∧ Base64.IsFilled x.keys.primaryText ∧
      Base64.IsFilled x.keys.secondaryText := by
  have hpassword := exists_holds_of_established h (Resolution.mem_established.mpr (.inl rfl))
  have hkeys := exists_holds_of_established h (Resolution.mem_established.mpr (.inr rfl))
  obtain ⟨bytes, hbytes, hsecondary⟩ := exists_secondary_of_resolve h
  obtain ⟨p, _, _, password, keys, hp, -, -, -, rfl⟩ := resolve_gives_ok_iff.mp h
  refine ⟨fun path hblank => mayBeBlank_of_blankAt hr hp hblank, ?_, ?_, ?_, ?_, ?_, ?_⟩
  · obtain ⟨i, _, _, -, -, -, rfl⟩ := exists_stages hp
    exact positiveOr_pos (by decide) _
  · obtain ⟨i, _, _, -, -, -, rfl⟩ := exists_stages hp
    exact positiveOr_pos (by decide) _
  · intro w q hgiven hsupplied
    obtain rfl := Workload.given_of_plan hp hgiven
    rw [hsupplied]
    exact w.usual_full
  · exact isFilled_encode hpassword.1.primary
  · exact isFilled_encode hkeys.1.primary
  · rw [Credential.secondaryText, hsecondary]
    exact isFilled_encode hbytes

theorem nothing_left_open_plain : ∃ es x, (Registry.ofPairs []).Built ∧
    (plain.resolve (.ofPairs []) (.repeating 0)).Gives es (.ok x) ∧
    (∀ path, (Parameters.shape.write x.parameters).at? path = some (.str "") →
      x.parameters.MayBeBlank plain path) ∧
    (∀ (w : Workload) (q : Requirements), w.given x.parameters = some q →
      w.supplied plain = none → q.Full) ∧
    Base64.IsFilled x.password.primaryText := by
  let pass := plain.resolve (.ofPairs []) (.repeating 0)
  obtain ⟨x, hx⟩ : ∃ x, (pass.run SecretStore.answer ⟨[]⟩).result.toOption = some x :=
    Option.isSome_iff_exists.mp (by decide +kernel)
  obtain ⟨es, hes, -⟩ := Dialogue.exists_gives_run SecretStore.answer pass ⟨[]⟩
  rw [Except.toOption_eq_some.mp hx] at hes
  obtain ⟨htexts, -, -, hfull, hpassword, -⟩ := nothing_left_open (.ofPairs []) hes
  exact ⟨es, x, .ofPairs [], hes, htexts, hfull, hpassword⟩

end Application

end PipelinesOperator
