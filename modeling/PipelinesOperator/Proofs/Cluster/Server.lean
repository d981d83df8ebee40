import PipelinesOperator.Cluster.Server
import PipelinesOperator.Proofs.Application.RoundTrip
import PipelinesOperator.Proofs.Cluster.Faithful
import PipelinesOperator.Proofs.Cluster.Target
import PipelinesOperator.Proofs.Shape.Canonical

/-!
# The server is faithful

To every application whose name and namespace, and all of whose secrets' names, can stand in a path
the server is a faithful cluster.  What it is sent arrives where it should, and what it answers is
read as what it holds, since secrets, errors and statuses are read back as they are written.

## Main definitions

* `Server.cluster space name`: the server, as the cluster that keeps one application

## Main results

* `Server.read_object`, `Server.read_error`: what the answers of the server are read as
* `Server.faithful`: the server is a faithful cluster
-/

namespace PipelinesOperator

open Shape

/-! ## What is sent -/

/-- The data of a secret as it is sent. -/
def SecretFields.document (fields : SecretFields) : Json :=
  .obj (fields.entries.map fun e => (e.1, .str (String.ofList (Base64.encode e.2))))

theorem SecretFields.plain_document (fields : SecretFields) (n : Nat) :
    fields.document.Plain (n + 1) := by
  refine .obj fun m hm => ?_
  obtain ⟨e, -, rfl⟩ := List.mem_map.mp hm
  exact .str n _

/-- An owner is read back from what is written of it. -/
theorem OwnerReference.lossless : OwnerReference.shape.Lossless := by
  refine ⟨by decide, ?_⟩
  simp

namespace Secret

section Owned

variable (apiVersion kind name uid space secret : String) (fields : SecretFields)

/-- A secret that is made for an owner, as it is sent. -/
theorem write_owned :
    Secret.shape.write (.owned ⟨apiVersion, none, some true, kind, name, uid⟩ space secret fields) =
      .obj [("apiVersion", .str "v1"), ("data", fields.document), ("kind", .str "Secret"),
        ("metadata", .obj [("labels", .obj [(Names.managedByLabel, .str Names.operator)]),
          ("name", .str secret), ("namespace", .str space),
          ("ownerReferences", .arr [.obj [("apiVersion", .str apiVersion),
            ("controller", .bool true), ("kind", .str kind), ("name", .str name),
            ("uid", .str uid)]])]),
        ("type", .str "Opaque")] := rfl

end Owned

section AnyOwner

variable (owner : OwnerReference) (space secret : String) (fields : SecretFields)

/-- The parts of a secret that is made for any owner. -/
theorem write_owned_eq : Secret.shape.write (.owned owner space secret fields) =
    .obj [("apiVersion", .str "v1"), ("data", fields.document), ("kind", .str "Secret"),
      ("metadata", .obj [("labels", .obj [(Names.managedByLabel, .str Names.operator)]),
        ("name", .str secret), ("namespace", .str space),
        ("ownerReferences", .arr [OwnerReference.shape.write owner])]),
      ("type", .str "Opaque")] := rfl

/-- A secret that is made for an owner is read back by the server. -/
theorem ofJson_write_owned : Secret.shape.ofJson (Secret.shape.write
    (.owned owner space secret fields)) = .ok (.owned owner space secret fields) := by
  have howner := keeps_of_lossless OwnerReference.lossless owner
  apply Shape.ofJson_write
  refine ⟨by decide, ?_⟩
  simp [Secret.owned, KeepsAll, Keeps, Metadata.shape, howner, Field.defaulted, Field.optional,
    Shape.struct, Fields.keys, write]

theorem plain_write_owned (n : Nat) :
    (Secret.shape.write (.owned owner space secret fields)).Plain (n + 4) := by
  have hdepth : OwnerReference.shape.depth ≤ n + 1 := Nat.le_add_left 1 n
  have howner := (plain_write OwnerReference.lossless owner).mono hdepth
  rw [write_owned_eq]
  simp [Json.plain_obj_iff, Json.plain_arr_iff, fields.plain_document, howner]

end AnyOwner

end Secret

namespace Server

/-! ## What is answered -/

/-- An object that is sent is read as what it holds. -/
theorem read_object {α : Type} {shape : Shape α} {code : UInt16} {j : Json} {a : α}
    (hcode : ¬(400 ≤ code ∧ code ≤ 599)) (hplain : j.Plain JsonText.maxDepth)
    (h : shape.ofJson j = .ok a) : (Server.object code j).read shape = .ok a := by
  have hread : JsonText.read shape j.canonical.compact = .ok a :=
    (JsonText.read_compact hplain.canonical shape a).mpr (ofJson_canonical h)
  rw [Server.object, Reply.read, if_neg hcode, Json.canonicalText, Json.text, String.toList_ofList,
    hread]
  rfl

/-- An error as it is sent. -/
def errorDocument (code : UInt16) (reason message : String) : Json :=
  .obj [("apiVersion", .str "v1"), ("kind", .str "Status"), ("metadata", .obj []),
    ("status", .str "Failure"), ("message", .str message), ("reason", .str reason),
    ("code", .ofNat code.toNat)]

theorem plain_errorDocument (code : UInt16) (reason message : String) (n : Nat) :
    (errorDocument code reason message).Plain (n + 2) := by
  have hcode : (code.toNat : Int) ≤ 18446744073709551615 := by
    have := code.toNat_lt
    omega
  have hplain : (Json.ofNat code.toNat).Plain (n + 1) := .integer _ (by omega) hcode
  simp [errorDocument, Json.plain_obj_iff, hplain]

theorem ofJson_errorDocument (code : UInt16) (reason message : String) :
    ApiError.shape.ofJson (errorDocument code reason message) =
      .ok ⟨"Failure", message, reason, code⟩ := by
  refine ofJson_struct_eq_ok.mpr ⟨?_, ("Failure", message, reason, code, ()),
    ⟨rfl, rfl, rfl, ?_, trivial⟩, rfl⟩
  · change Distinct _ ["apiVersion", "kind", "metadata", "status", "message", "reason", "code"]
    decide
  · exact ofJson_write .nat16 trivial

/-- An error that is sent is read as that error. -/
theorem read_error {α : Type} {shape : Shape α} {code : UInt16} (reason message : String)
    (hcode : 400 ≤ code ∧ code ≤ 599) : (Server.error code reason message).read shape =
      .error (.api ⟨"Failure", message, reason, code⟩) := by
  have hread : JsonText.read ApiError.shape (errorDocument code reason message).canonical.compact =
      .ok ⟨"Failure", message, reason, code⟩ :=
    (JsonText.read_compact (plain_errorDocument code reason message 125).canonical _ _).mpr
      (ofJson_canonical (ofJson_errorDocument code reason message))
  change Reply.read shape (Server.object code (errorDocument code reason message)) = _
  rw [Server.object, Reply.read, if_pos hcode, ApiError.ofResponse, Json.canonicalText, Json.text,
    String.toList_ofList, hread]

/-- A secret that is shown is read as one with the data that is held. -/
theorem read_shown (space name : String) (data : Option SecretFields) :
    ∃ secret, (Server.object 200 (shown space name data)).read Secret.shape = .ok secret ∧
      secret.fields = data.getD ∅ := by
  refine ⟨_, read_object (by decide) ?_ (ofJson_write Secret.shape ?_), rfl⟩
  · cases data with
    | none =>
      change (Json.obj [("apiVersion", .str "v1"), ("kind", .str "Secret"),
        ("metadata", .obj [("name", .str name), ("namespace", .str space)]),
        ("type", .str "Opaque")]).Plain 127
      simp [Json.plain_obj_iff]
    | some fields =>
      change (Json.obj [("apiVersion", .str "v1"), ("data", fields.document),
        ("kind", .str "Secret"), ("metadata", .obj [("name", .str name),
          ("namespace", .str space)]), ("type", .str "Opaque")]).Plain 127
      simp [Json.plain_obj_iff, fields.plain_document]
  · refine ⟨by decide, ?_⟩
    cases data <;>
      simp [KeepsAll, Keeps, Metadata.shape, Field.defaulted, Field.optional, Shape.struct,
        Fields.keys, write]

/-! ## What is kept -/

/-- A key that was set has its value, and every other key the value it had. -/
theorem lookup_assign {α β : Type} [BEq α] [LawfulBEq α] [DecidableEq α] (key k : α) (value : β)
    (entries : List (α × β)) : (assign key value entries).lookup k =
      if k = key then some value else entries.lookup k := by
  rw [assign, lookup_decEq]
  exact lookup_replace_or_append key k value entries

theorem lookup_putSecret (s : Server) (space name : String) (data : Option SecretFields)
    (key : String × String) : (s.putSecret space name data).secrets.lookup key =
      if key = (space, name) then some data else s.secrets.lookup key :=
  lookup_assign (space, name) key data s.secrets

/-! ## Requests -/

section Requests

variable {space name : String} {request : Request}

theorem answer_getRequest (hs : IsSegment space) (hn : IsSegment name)
    (h : Secret.getRequest space name = .ok request) (s : Server) :
    s.answer request = (s.getSecret space name, s) := by
  obtain ⟨hmethod, hsegments⟩ := Secret.segments_getRequest hs hn h
  rw [answer]
  simp only [hmethod, hsegments]

theorem answer_createRequest {secret : Secret} (hs : IsSegment space)
    (h : Secret.createRequest space secret = .ok request) (s : Server) :
    s.answer request = s.createSecret space (Secret.shape.write secret) := by
  obtain ⟨hmethod, hsegments, hbody⟩ := Secret.segments_createRequest hs h
  rw [answer]
  simp only [hmethod, hsegments, hbody, Option.map_some, Option.getD_some]

theorem answer_statusRequest {status : Status} (hs : IsSegment space) (hn : IsSegment name)
    (h : Manifest.statusRequest space name status = .ok request) (s : Server) :
    s.answer request =
      s.patchStatus space name (.obj [("status", (Status.shape .hub).write status)]) := by
  obtain ⟨hmethod, hsegments, hbody⟩ := Manifest.segments_statusRequest hs hn h
  rw [answer]
  simp only [hmethod, hsegments, hbody, Option.map_some, Option.getD_some, and_self, if_true]

end Requests

/-! ## The server as a cluster -/

section Owned

variable (owner : OwnerReference) (space secret : String) (fields : SecretFields)

/-- A secret that is not there is made as it was sent. -/
theorem createSecret_owned {s : Server} (h : s.secrets.lookup (space, secret) = none) :
    s.createSecret space (Secret.shape.write (.owned owner space secret fields)) =
      (Server.object 201 (Secret.shape.write (.owned owner space secret fields)),
        s.putSecret space secret (some fields)) := by
  rw [createSecret]
  simp only [Secret.ofJson_write_owned]
  simp only [Secret.owned, Option.getD_some, h]

/-- A secret of the operator that is sent back is read as it was sent. -/
theorem read_owned : (Server.object 201 (Secret.shape.write
    (.owned owner space secret fields))).read Secret.shape =
      .ok (.owned owner space secret fields) :=
  read_object (by decide) (Secret.plain_write_owned owner space secret fields 123)
    (Secret.ofJson_write_owned owner space secret fields)

end Owned

/-- The server, as the cluster that keeps the application of a namespace and name. -/
def cluster (space name : String) : Cluster Server where
  answer request s := s.answer request
  secret? s space name := (s.secrets.lookup (space, name)).map (·.getD ∅)
  object s :=
    match s.manifests.lookup (space, name) with
    | none => []
    | some manifest => manifest.members ++ [("status", (s.status? space name).getD .null)]
  Tellable members :=
    (∃ own status, members = own ++ [("status", status)] ∧ ∀ m ∈ own, m.1 ≠ "status") ∧
    (Json.obj members).Plain JsonText.maxDepth

section Kept

variable {s : Server} {space name : String} {manifest : Json}

/-- The object of an application: its manifest, with the status that was written last. -/
theorem object_of_manifest (h : s.manifests.lookup (space, name) = some manifest) :
    (cluster space name).object s =
      manifest.members ++ [("status", (s.status? space name).getD .null)] := by
  simp only [cluster, h]

/-- An application whose object can be told is there, and its manifest has no status. -/
theorem exists_manifest (h : (cluster space name).Tellable ((cluster space name).object s)) :
    ∃ manifest, s.manifests.lookup (space, name) = some manifest ∧
      ∀ m ∈ manifest.members, m.1 ≠ "status" := by
  obtain ⟨⟨own, old, hobject, hown⟩, -⟩ := h
  cases hm : s.manifests.lookup (space, name) with
  | none =>
    simp only [cluster, hm] at hobject
    exact absurd hobject.symm (List.concat_ne_nil _ own)
  | some manifest =>
    rw [object_of_manifest hm] at hobject
    obtain ⟨rfl, -⟩ := List.append_inj' hobject rfl
    exact ⟨manifest, rfl, hown⟩

/-- A status is merged into the one that was written last. -/
theorem patchStatus_eq (h : s.manifests.lookup (space, name) = some manifest) {value : Json}
    (hv : value ≠ .null) : s.patchStatus space name (.obj [("status", value)]) =
      let merged := ((s.status? space name).getD .null).mergePatch value
      (Server.object 200 (.obj (manifest.members ++ [("status", merged)])),
        { s with statuses := assign (space, name) merged s.statuses }) := by
  rw [patchStatus, h]
  simp only [Json.mergePatch_member hv]
  rfl

/-- The object behind a status that was merged. -/
theorem object_merged (h : s.manifests.lookup (space, name) = some manifest) (merged : Json) :
    (cluster space name).object { s with statuses := assign (space, name) merged s.statuses } =
      manifest.members ++ [("status", merged)] := by
  refine (object_of_manifest (s := { s with statuses := assign (space, name) merged s.statuses })
    h).trans ?_
  rw [status?, lookup_assign, if_pos rfl]
  rfl

/-- A status that is merged is laid over that of the object. -/
theorem mergePatch_object (hown : ∀ m ∈ manifest.members, m.1 ≠ "status") (old : Json)
    {value : Json} (hv : value ≠ .null) :
    (Json.obj (manifest.members ++ [("status", old)])).mergePatch (.obj [("status", value)]) =
      .obj (manifest.members ++ [("status", old.mergePatch value)]) := by
  have hnone : manifest.members.lookup "status" = none :=
    List.lookup_eq_none_iff.mpr fun m hm => bne_iff_ne.mpr (hown m hm).symm
  rw [Json.mergePatch_member hv, Json.setMember_append hown, List.lookup_append, hnone]
  rfl

/-- A status that is written is merged into the object, which is sent back.  It can be read again,
since merging goes no deeper than the deeper of the two. -/
theorem answer_statusRequest_merges {status : Status} {request : Request} (hs : IsSegment space)
    (hn : IsSegment name) (h : Manifest.statusRequest space name status = .ok request)
    (htellable : (cluster space name).Tellable ((cluster space name).object s)) :
    let c := cluster space name
    (∀ space name, c.secret? (c.answer request s).2 space name = c.secret? s space name) ∧
    Json.obj (c.object (c.answer request s).2) =
      (Json.obj (c.object s)).mergePatch (.obj [("status", (Status.shape .hub).write status)]) ∧
    c.Tellable (c.object (c.answer request s).2) ∧
    ∀ m', Manifest.shape.ofJson (.obj (c.object (c.answer request s).2)) = .ok m' →
      ∃ m'', (c.answer request s).1.read Manifest.shape = .ok m'' := by
  intro c
  obtain ⟨manifest, hmanifest, hown⟩ := exists_manifest htellable
  have hv : (Status.shape .hub).write status ≠ .null := Json.noConfusion
  have hanswer : c.answer request s = _ :=
    (answer_statusRequest hs hn h s).trans (patchStatus_eq hmanifest hv)
  have hmerged : (Json.obj (manifest.members ++ [("status",
      ((s.status? space name).getD .null).mergePatch
        ((Status.shape .hub).write status))])).Plain JsonText.maxDepth := by
    rw [← mergePatch_object hown _ hv, ← object_of_manifest hmanifest]
    refine Json.Plain.mergePatch (.obj fun member hmember => ?_) htellable.2
    obtain rfl := List.mem_singleton.mp hmember
    exact (plain_write (Status.lossless .hub).2 status).mono (by decide)
  rw [hanswer, object_merged hmanifest, object_of_manifest hmanifest, mergePatch_object hown _ hv]
  exact ⟨fun _ _ => rfl, rfl, ⟨⟨_, _, rfl, hown⟩, hmerged⟩,
    fun m' hm' => ⟨m', read_object (by decide) hmerged hm'⟩⟩

end Kept

/-- The server is a faithful cluster. -/
theorem faithful {r : Registry} {m : Manifest} {space name : String}
    (hspace : m.metadata.space = some space) (hname : m.metadata.name = some name)
    (hs : IsSegment space) (hn : IsSegment name) (hconcerns : ∀ space name,
      m.toApplication.Concerns r space name → IsSegment space ∧ IsSegment name) :
    (cluster space name).Faithful r m where
  get_same space' name' request s hc h := by
    obtain ⟨hs', hn'⟩ := hconcerns space' name' hc
    simp only [cluster, answer_getRequest hs' hn' h, implies_true, and_self]
  get_present space' name' request s fields hc h hheld := by
    obtain ⟨hs', hn'⟩ := hconcerns space' name' hc
    obtain ⟨data, hdata, rfl⟩ := Option.map_eq_some_iff.mp hheld
    simp only [cluster, answer_getRequest hs' hn' h, getSecret, hdata]
    exact read_shown space' name' data
  get_absent space' name' request s hc h hheld := by
    obtain ⟨hs', hn'⟩ := hconcerns space' name' hc
    have hnone := Option.map_eq_none_iff.mp hheld
    simp only [cluster, answer_getRequest hs' hn' h, getSecret, hnone]
    exact ⟨_, read_error "NotFound" _ (by decide), rfl⟩
  post_absent owner space' name' fields request s _ hc h hheld := by
    obtain ⟨hs', -⟩ := hconcerns space' name' hc
    have hnone := Option.map_eq_none_iff.mp hheld
    simp only [cluster, answer_createRequest hs' h,
      createSecret_owned owner space' name' fields hnone]
    refine ⟨⟨_, read_owned owner space' name' fields⟩, ?_, ?_, rfl⟩
    · rw [lookup_putSecret, if_pos rfl]
      rfl
    · intro space'' name'' fields' _ hheld'
      rw [lookup_putSecret, if_neg]
      · exact hheld'
      · rintro ⟨⟩
        rw [hnone] at hheld'
        cases hheld'
  patch space' name' status request s hs' hn' h htellable := by
    obtain rfl : space' = space := Option.some.inj (hs'.symm.trans hspace)
    obtain rfl : name' = name := Option.some.inj (hn'.symm.trans hname)
    obtain ⟨hsecrets, hmerged⟩ := answer_statusRequest_merges hs hn h htellable
    exact ⟨fun space name _ => hsecrets space name, hmerged⟩

end Server

end PipelinesOperator
