import PipelinesOperator.Proofs.Shape.Blank
import PipelinesOperator.Resolution.Parameters

/-!
# The texts of the parameters

Where the parameters, as they are written, have an empty text is told here record by record.  A
record whose own texts are not empty has an empty text in its requirements at most, and of these in
a quantity.

## Main definitions

* `Requirements.Full`: requirements with all four quantities, none of them empty
* `Parameters.InResources`: a path into the requirements of a record, and to an empty text there
* `Parameters.ApiServer.Filled`: parameters of an API server without an empty text of their own

## Main results

* `Requirements.exists_keys_of_blankAt`, `Requirements.Full.not_blankAt`: the texts of requirements
* `Parameters.ApiServer.Filled.inResources` and its like: an empty text is one in the requirements
* `CredentialReference.exists_key_of_blankAt`: the texts of a reference
* `Parameters.DatabaseConnection.cases_of_blankAt`, `Parameters.StorageConnection.cases_of_blankAt`:
  the texts of a connection
-/

namespace PipelinesOperator

open Shape

/-- An amount with both its quantities, neither of them empty. -/
structure Resources.Full (amount : Resources) : Prop where
  cpu : ∃ q, amount.cpu = some q ∧ q.text ≠ ""
  memory : ∃ q, amount.memory = some q ∧ q.text ≠ ""

/-- Requirements with both their amounts, each of them full. -/
structure Requirements.Full (q : Requirements) : Prop where
  requests : ∃ amount, q.requests = some amount ∧ amount.Full
  limits : ∃ amount, q.limits = some amount ∧ amount.Full

variable {path : List String}

/-! ## Requirements -/

namespace Resources

variable {amount : Resources}

theorem exists_key_of_blankAt (h : (Resources.shape .hub).BlankAt amount path) :
    ∃ key ∈ ["cpu", "memory"], path = [key] := by
  rcases blankIn_of_blankAt_struct h with ⟨behind, rfl, hb⟩ | ⟨behind, rfl, hb⟩ | ⟨⟨⟩⟩
  · obtain ⟨q, -, hb⟩ := blankAt_optional.mp hb
    obtain ⟨rfl, -⟩ := blankAt_quantity.mp hb
    exact ⟨"cpu", by simp, rfl⟩
  · obtain ⟨q, -, hb⟩ := blankAt_optional.mp hb
    obtain ⟨rfl, -⟩ := blankAt_quantity.mp hb
    exact ⟨"memory", by simp, rfl⟩

theorem Full.not_blankAt (hamount : amount.Full) : ¬(Resources.shape .hub).BlankAt amount path := by
  intro h
  obtain ⟨cpu, hcpu, hcpuText⟩ := hamount.cpu
  obtain ⟨memory, hmemory, hmemoryText⟩ := hamount.memory
  simpa [hcpu, hcpuText, hmemory, hmemoryText] using blankIn_of_blankAt_struct h

end Resources

namespace Requirements

variable {q : Requirements}

/-- The four quantities are the only texts of requirements. -/
theorem exists_keys_of_blankAt (h : (Requirements.shape .hub).BlankAt q path) :
    ∃ side ∈ ["limits", "requests"], ∃ amount ∈ ["cpu", "memory"], path = [side, amount] := by
  rcases blankIn_of_blankAt_struct h with ⟨behind, rfl, hb⟩ | ⟨behind, rfl, hb⟩ | ⟨⟨⟩⟩
  · obtain ⟨amount, -, hb⟩ := blankAt_optional.mp hb
    obtain ⟨key, hkey, rfl⟩ := Resources.exists_key_of_blankAt hb
    exact ⟨"limits", by simp, key, hkey, rfl⟩
  · obtain ⟨amount, -, hb⟩ := blankAt_optional.mp hb
    obtain ⟨key, hkey, rfl⟩ := Resources.exists_key_of_blankAt hb
    exact ⟨"requests", by simp, key, hkey, rfl⟩

theorem Full.not_blankAt (hq : q.Full) : ¬(Requirements.shape .hub).BlankAt q path := by
  intro h
  obtain ⟨requests, hrequests, hrequestsFull⟩ := hq.requests
  obtain ⟨limits, hlimits, hlimitsFull⟩ := hq.limits
  simpa [hrequests, hrequestsFull.not_blankAt, hlimits, hlimitsFull.not_blankAt] using
    blankIn_of_blankAt_struct h

end Requirements

/-! ## References -/

namespace CredentialReference

variable {ref : CredentialReference}

/-- A reference with no empty text. -/
structure Filled (ref : CredentialReference) : Prop where
  space : ref.space ≠ ""
  name : ref.name ≠ ""
  primaryKey : ref.primaryKey ≠ ""
  secondaryKey : ref.secondaryKey ≠ some ""

@[simp] theorem not_blankAt_ownershipShape {ownership : Ownership} :
    ¬ownershipShape.BlankAt ownership path := by
  rw [ownershipShape, blankAt_word]
  cases ownership <;> simp

@[simp] theorem not_blankAt_kindShape {kind : CredentialKind} : ¬kindShape.BlankAt kind path := by
  rw [kindShape, blankAt_word]
  cases kind <;> simp

/-- With a namespace, a reference has an empty text as a name or a key at most. -/
theorem exists_key_of_blankAt (hspace : ref.space ≠ "")
    (h : CredentialReference.shape.BlankAt ref path) :
    ∃ key ∈ ["name", "primaryKey", "secondaryKey"], path = [key] := by
  rcases blankIn_of_blankAt_struct h with ⟨behind, rfl, hb⟩ | ⟨behind, rfl, hb⟩ |
    ⟨behind, rfl, hb⟩ | ⟨behind, rfl, hb⟩ | ⟨behind, rfl, hb⟩ | ⟨behind, rfl, hb⟩ | ⟨⟨⟩⟩
  · exact absurd (blankAt_text.mp hb).2 hspace
  · obtain ⟨rfl, -⟩ := blankAt_text.mp hb
    exact ⟨"name", by simp, rfl⟩
  · obtain ⟨rfl, -⟩ := blankAt_text.mp hb
    exact ⟨"primaryKey", by simp, rfl⟩
  · obtain ⟨key, -, hb⟩ := blankAt_optional.mp hb
    obtain ⟨rfl, -⟩ := blankAt_text.mp hb
    exact ⟨"secondaryKey", by simp, rfl⟩
  · exact absurd hb not_blankAt_ownershipShape
  · exact absurd hb not_blankAt_kindShape

theorem Filled.not_blankAt (hfilled : ref.Filled) :
    ¬CredentialReference.shape.BlankAt ref path := by
  intro h
  simpa [hfilled.space, hfilled.name, hfilled.primaryKey, hfilled.secondaryKey] using
    blankIn_of_blankAt_struct h

end CredentialReference

/-! ## Records -/

namespace Parameters

@[simp] theorem key_field {α : Type} (key : String) : (field key : Field α).key = key := rfl

/-- The path leads into the requirements of a record, and to an empty text there. -/
def InResources (q : Requirements) (path : List String) : Prop :=
  ∃ behind, path = "resources" :: behind ∧ (Requirements.shape .hub).BlankAt q behind

/-- The parameters of an API server have no empty text of their own. -/
structure ApiServer.Filled (q : ApiServer) : Prop where
  image : q.image ≠ ""
  artifactImage : q.artifactImage ≠ ""
  cacheImage : q.cacheImage ≠ ""
  moveResultsImage : q.moveResultsImage ≠ ""
  scriptName : q.artifactScriptConfigMap.name ≠ ""
  scriptKey : q.artifactScriptConfigMap.key ≠ ""
  terminateStatus : q.terminateStatus ≠ ""

theorem ApiServer.Filled.inResources {q : ApiServer} (hq : q.Filled)
    (h : ApiServer.shape.BlankAt q path) : InResources q.resources path := by
  have hscript (behind : List String) :
      ¬(ScriptConfigMap.shape .hub).BlankAt q.artifactScriptConfigMap behind := by
    intro h
    simpa [hq.scriptName, hq.scriptKey] using blankIn_of_blankAt_struct h
  simpa [InResources, hscript, hq.image, hq.artifactImage, hq.cacheImage, hq.moveResultsImage,
    hq.terminateStatus] using blankIn_of_blankAt_struct h

theorem PersistenceAgent.inResources {q : PersistenceAgent} (himage : q.image ≠ "")
    (h : PersistenceAgent.shape.BlankAt q path) : InResources q.resources path := by
  simpa [InResources, himage] using blankIn_of_blankAt_struct h

theorem ScheduledWorkflow.inResources {q : ScheduledWorkflow} (himage : q.image ≠ "")
    (htimezone : q.cronScheduleTimezone ≠ "") (h : ScheduledWorkflow.shape.BlankAt q path) :
    InResources q.resources path := by
  simpa [InResources, himage, htimezone] using blankIn_of_blankAt_struct h

theorem UserInterface.inResources {q : UserInterface} (himage : q.image ≠ "")
    (hconfig : q.configMapName ≠ "") (h : UserInterface.shape.BlankAt q path) :
    InResources q.resources path := by
  simpa [InResources, himage, hconfig] using blankIn_of_blankAt_struct h

theorem MlmdPart.inResources {q : MlmdPart} (himage : q.image ≠ "")
    (h : MlmdPart.shape.BlankAt q path) : InResources q.resources path := by
  simpa [InResources, himage] using blankIn_of_blankAt_struct h

theorem MlmdGrpc.inResources {q : MlmdGrpc} (himage : q.image ≠ "") (hport : q.port ≠ "")
    (h : MlmdGrpc.shape.BlankAt q path) : InResources q.resources path := by
  simpa [InResources, himage, hport] using blankIn_of_blankAt_struct h

theorem ImageOnly.not_blankAt {q : ImageOnly} (himage : q.image ≠ "") :
    ¬ImageOnly.shape.BlankAt q path := by
  intro h
  simpa [himage] using blankIn_of_blankAt_struct h

theorem MariaDb.inResources {q : MariaDb} (himage : q.image ≠ "") (husername : q.username ≠ "")
    (hdbName : q.dbName ≠ "") (hsize : q.pvcSize.text ≠ "") (h : MariaDb.shape.BlankAt q path) :
    InResources q.resources path := by
  simpa [InResources, himage, husername, hdbName, hsize] using blankIn_of_blankAt_struct h

theorem Minio.inResources {q : Minio} (himage : q.image ≠ "") (hbucket : q.bucket ≠ "")
    (hsize : q.pvcSize.text ≠ "") (h : Minio.shape.BlankAt q path) :
    InResources q.resources path := by
  simpa [InResources, himage, hbucket, hsize] using blankIn_of_blankAt_struct h

/-! ## Connections -/

@[simp] theorem not_blankAt_originShape {origin : Origin} : ¬originShape.BlankAt origin path := by
  rw [originShape, blankAt_word]
  cases origin <;> simp

/-- The texts by which a database is reached, under their keys. -/
def DatabaseConnection.address (q : DatabaseConnection) : List (String × String) :=
  [("host", q.host), ("port", q.port), ("username", q.username), ("dbName", q.dbName)]

/-- An empty text in a connection is in its address or in the reference of its password. -/
theorem DatabaseConnection.cases_of_blankAt {q : DatabaseConnection}
    (hsecret : q.operatorSecret.Filled) (h : DatabaseConnection.shape.BlankAt q path) :
    (∃ key, (key, "") ∈ q.address ∧ path = [key]) ∨
      ∃ behind, path = "credentials" :: behind ∧
        CredentialReference.shape.BlankAt q.credentials behind := by
  rcases blankIn_of_blankAt_struct h with ⟨behind, rfl, hb⟩ | ⟨behind, rfl, hb⟩ |
    ⟨behind, rfl, hb⟩ | ⟨behind, rfl, hb⟩ | ⟨behind, rfl, hb⟩ | ⟨behind, rfl, hb⟩ |
    ⟨behind, rfl, hb⟩ | ⟨behind, rfl, hb⟩ | ⟨behind, rfl, hb⟩ | ⟨⟨⟩⟩
  · obtain ⟨rfl, hhost⟩ := blankAt_text.mp hb
    exact .inl ⟨"host", by simp [address, hhost], rfl⟩
  · obtain ⟨rfl, hport⟩ := blankAt_text.mp hb
    exact .inl ⟨"port", by simp [address, hport], rfl⟩
  · obtain ⟨rfl, husername⟩ := blankAt_text.mp hb
    exact .inl ⟨"username", by simp [address, husername], rfl⟩
  · obtain ⟨rfl, hdbName⟩ := blankAt_text.mp hb
    exact .inl ⟨"dbName", by simp [address, hdbName], rfl⟩
  · exact .inr ⟨behind, rfl, hb⟩
  · exact absurd hb hsecret.not_blankAt
  · exact absurd hb not_blankAt_originShape
  · exact absurd hb not_blankAt_flag
  · exact absurd hb not_blankAt_flag

/-- The texts by which object storage is reached, under their keys. -/
def StorageConnection.address (q : StorageConnection) : List (String × String) :=
  [("host", q.host), ("port", q.port), ("scheme", q.scheme), ("bucket", q.bucket)]

/-- An empty text in a connection is in its address or in the reference of its keys. -/
theorem StorageConnection.cases_of_blankAt {q : StorageConnection}
    (hendpoint : q.endpoint ≠ "") (hsecret : q.operatorSecret.Filled)
    (h : StorageConnection.shape.BlankAt q path) :
    (∃ key, (key, "") ∈ q.address ∧ path = [key]) ∨
      ∃ behind, path = "credentials" :: behind ∧
        CredentialReference.shape.BlankAt q.credentials behind := by
  rcases blankIn_of_blankAt_struct h with ⟨behind, rfl, hb⟩ | ⟨behind, rfl, hb⟩ |
    ⟨behind, rfl, hb⟩ | ⟨behind, rfl, hb⟩ | ⟨behind, rfl, hb⟩ | ⟨behind, rfl, hb⟩ |
    ⟨behind, rfl, hb⟩ | ⟨behind, rfl, hb⟩ | ⟨behind, rfl, hb⟩ | ⟨behind, rfl, hb⟩ |
    ⟨behind, rfl, hb⟩ | ⟨⟨⟩⟩
  · obtain ⟨rfl, hhost⟩ := blankAt_text.mp hb
    exact .inl ⟨"host", by simp [address, hhost], rfl⟩
  · obtain ⟨rfl, hport⟩ := blankAt_text.mp hb
    exact .inl ⟨"port", by simp [address, hport], rfl⟩
  · obtain ⟨rfl, hscheme⟩ := blankAt_text.mp hb
    exact .inl ⟨"scheme", by simp [address, hscheme], rfl⟩
  · obtain ⟨rfl, hbucket⟩ := blankAt_text.mp hb
    exact .inl ⟨"bucket", by simp [address, hbucket], rfl⟩
  · exact absurd hb not_blankAt_flag
  · exact absurd (blankAt_text.mp hb).2 hendpoint
  · exact .inr ⟨behind, rfl, hb⟩
  · exact absurd hb hsecret.not_blankAt
  · exact absurd hb not_blankAt_originShape
  · exact absurd hb not_blankAt_flag
  · exact absurd hb not_blankAt_flag

end Parameters

end PipelinesOperator
