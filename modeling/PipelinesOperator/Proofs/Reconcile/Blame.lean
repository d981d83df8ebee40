import PipelinesOperator.Proofs.Cluster.Askable
import PipelinesOperator.Proofs.Reconcile.Answered
import PipelinesOperator.Proofs.Resolution.Replay

/-!
# Who is blamed for a failure

A resolution fails over a mistake of the user's or over the store.  A mistake is recorded in the
status; a fault of the store is passed on, and the pass is repeated until it goes away.  If the
server answers as it should there ought to be no faults.  There is one kind all the same: a secret
that the user names by a name for which there is no request.  The fault is met before anything is
sent, so it does not go away, and it is not recorded.

With correct replies that is the only kind.  All other failures are mistakes, and all mistakes are
recorded.

## Main definitions

* `Application.ComesUponUnaskable`: a resolution comes upon a secret of the user's that cannot be
  asked for
* `Manifest.Records`: the requests by which a verdict is recorded, or none if it was before
* `Manifest.relying`: a manifest that relies on a secret of a name that the user gives

## Main results

* `get_of_answered`, `get_of_unaskable`, `create_of_answered`: single calls
* `CredentialReference.fault_iff_of_answered`: passes over one credential
* `Application.resolve_fault_iff`: when a resolution ends with a fault
* `Manifest.Ending.recorded`: what becomes of a verdict
* `Manifest.mistakes_recorded_unless_unaskable`: the two ways in which a pass ends
-/

namespace PipelinesOperator

open Dialogue

/-! ## Calls with correct replies -/

section Calls

variable {owner : OwnerReference} {space name : String} {fields : SecretFields}
  {es : List RequestExchange}

theorem Reply.read_of_error {α : Type} {shape : Shape α} {code : UInt16} {text : String}
    (h : 400 ≤ code ∧ code ≤ 599) :
    (Reply.response code text).read shape = .error (.api (.ofResponse code text)) := if_pos h

theorem Reply.exists_found {reply : Reply} (h : (∃ fields, reply.Shows fields) ∨ reply.SaysAbsent) :
    ∃ found, Secret.found reply = .ok found := by
  rcases h with ⟨fields, secret, hread, -⟩ | ⟨code, text, rfl, hcode, hreason⟩
  · exact ⟨some secret.fields, by rw [Secret.found, hread]⟩
  · refine ⟨none, ?_⟩
    rw [Secret.found, read_of_error hcode]
    exact if_pos (decide_eq_true hreason)

theorem Reply.exists_made {reply : Reply} (h : (∃ fields, reply.Shows fields) ∨ reply.SaysTaken) :
    ∃ outcome, Secret.made reply = .ok outcome := by
  rcases h with ⟨fields, secret, hread, -⟩ | ⟨code, text, rfl, hcode, htaken⟩
  · exact ⟨.created, by rw [Secret.made, hread]⟩
  · refine ⟨.alreadyExists, ?_⟩
    rw [Secret.made, read_of_error hcode]
    exact if_pos (decide_eq_true htaken)

/-- A secret that can be asked for is found, or found not to be there. -/
theorem get_of_answered {a : Except ClusterFault (Option SecretFields)} (hs : LegalName space)
    (hname : Askable name) (h : (StoreCall.perform owner (.get space name)).Gives es a)
    (hanswered : ∀ e ∈ es, Answered e) : ∃ found, a = .ok found := by
  obtain ⟨q, hq⟩ := (Secret.exists_getRequest_iff hs).mpr hname
  rcases gives_send.mp h with ⟨fault, hfault, -, -⟩ | ⟨q', reply, hq', rfl, rfl⟩
  · rw [hq] at hfault
    cases hfault
  · have hreply := hanswered _ (List.mem_singleton_self _)
    rw [Answered, Cluster.getRequest_eq_ok hq'] at hreply
    exact Reply.exists_found hreply

/-- A secret that cannot be asked for is a fault before anything is sent. -/
theorem get_of_unaskable {a : Except ClusterFault (Option SecretFields)} (hs : LegalName space)
    (hname : ¬Askable name) (h : (StoreCall.perform owner (.get space name)).Gives es a) :
    es = [] ∧ ∃ fault, a = .error fault := by
  rcases gives_send.mp h with ⟨fault, -, rfl, rfl⟩ | ⟨q, reply, hq, -, -⟩
  · exact ⟨rfl, fault, rfl⟩
  · exact absurd ((Secret.exists_getRequest_iff hs).mp ⟨q, hq⟩) hname

/-- A secret is made, or found to be there already. -/
theorem create_of_answered {a : Except ClusterFault CreateOutcome} (hs : LegalName space)
    (h : (StoreCall.perform owner (.create space name fields)).Gives es a)
    (hanswered : ∀ e ∈ es, Answered e) : ∃ outcome, a = .ok outcome := by
  obtain ⟨q, hq⟩ := Secret.exists_createRequest hs (.owned owner space name fields)
  rcases gives_send.mp h with ⟨fault, hfault, -, -⟩ | ⟨q', reply, hq', rfl, rfl⟩
  · rw [hq] at hfault
    cases hfault
  · have hreply := hanswered _ (List.mem_singleton_self _)
    rw [Answered, (Request.of_eq_ok hq').1] at hreply
    exact Reply.exists_made hreply

end Calls

/-! ## One credential -/

namespace CredentialReference

variable {r : CredentialReference} {fresh : Material} {owner : OwnerReference}
  {es : List RequestExchange} {x : Except ResolutionError (Credential × Origin)}

/-- With correct replies a pass over a secret that can be asked for meets no fault. -/
theorem ne_fault_of_answered (hs : LegalName r.space) (hname : Askable r.name)
    (h : ((r.ensure fresh).expand (StoreCall.perform owner)).Gives es x)
    (hanswered : ∀ e ∈ es, Answered e) (fault : ClusterFault) : x ≠ .error (.store fault) := by
  rintro rfl
  obtain ⟨qs, hgives, hc⟩ := gives_expand.mp h
  have hcourse := ensure_gives_iff.mp hgives
  obtain ⟨⟨call, a⟩, hmem, hfailure⟩ := hcourse.exists_failure
  obtain ⟨es', hsub, hperform⟩ := hc.exists_gives hmem
  have hanswered' : ∀ e ∈ es', Answered e := fun e he => hanswered e (hsub he)
  rcases hcourse.call_eq hmem with rfl | ⟨-, rfl⟩
  · obtain ⟨found, hfound⟩ := get_of_answered hs hname hperform hanswered'
    cases hfound.symm.trans hfailure
  · obtain ⟨outcome, houtcome⟩ := create_of_answered hs hperform hanswered'
    cases houtcome.symm.trans hfailure

/-- A pass over a secret that cannot be asked for sends nothing and ends with a fault.  The first
call is to fetch the secret, and no request comes of it. -/
theorem fault_of_unaskable (hs : LegalName r.space) (hname : ¬Askable r.name)
    (h : ((r.ensure fresh).expand (StoreCall.perform owner)).Gives es x) :
    es = [] ∧ ∃ fault, x = .error (.store fault) := by
  obtain ⟨qs, hgives, hc⟩ := gives_expand.mp h
  rw [ensure_eq] at hgives
  obtain ⟨found, qs', rfl, hnext⟩ := gives_ask.mp hgives
  cases hc with
  | cons head rest =>
    obtain ⟨rfl, fault, rfl⟩ := get_of_unaskable hs hname head
    obtain ⟨rfl, rfl⟩ := gives_done.mp hnext
    cases rest
    exact ⟨rfl, fault, rfl⟩

/-- With correct replies there is a fault exactly if the secret cannot be asked for. -/
theorem fault_iff_of_answered (hs : LegalName r.space)
    (h : ((r.ensure fresh).expand (StoreCall.perform owner)).Gives es x)
    (hanswered : ∀ e ∈ es, Answered e) :
    (∃ fault, x = .error (.store fault)) ↔ ¬Askable r.name := by
  constructor
  · rintro ⟨fault, hx⟩ hname
    exact ne_fault_of_answered hs hname h hanswered fault hx
  · intro hname
    exact (fault_of_unaskable hs hname h).2

end CredentialReference

/-! ## A resolution -/

namespace Application

variable {a : Application} {r : Registry} {fresh : Material} {owner : OwnerReference} {p : Plan}
  {space name : String} {es : List RequestExchange} {x : Except ResolutionError Resolution}

/-- A resolution comes upon a secret of the user's that cannot be asked for: the one for the
database or, behind a password that was obtained, the one for object storage. -/
inductive ComesUponUnaskable (a : Application) (r : Registry) (fresh : Material)
    (owner : OwnerReference) (es : List RequestExchange) : Prop where
  | password {p : Plan} (plan : a.plan r = .ok p)
      (user : p.database.credentials.ownership = .user)
      (unaskable : ¬Askable p.database.credentials.name) : ComesUponUnaskable a r fresh owner es
  | keys {p : Plan} {password : Credential × Origin} (plan : a.plan r = .ok p)
      (obtained : ((p.database.credentials.ensure fresh).expand (StoreCall.perform owner)).Gives es
        (.ok password))
      (user : p.objectStorage.credentials.ownership = .user)
      (unaskable : ¬Askable p.objectStorage.credentials.name) :
      ComesUponUnaskable a r fresh owner es

/-- With a plan at hand, which of its secrets cannot be asked for decides. -/
theorem comesUponUnaskable_iff (hp : a.plan r = .ok p) :
    a.ComesUponUnaskable r fresh owner es ↔
      (p.database.credentials.ownership = .user ∧ ¬Askable p.database.credentials.name) ∨
      (∃ password, ((p.database.credentials.ensure fresh).expand (StoreCall.perform owner)).Gives es
          (.ok password)) ∧
        p.objectStorage.credentials.ownership = .user ∧
        ¬Askable p.objectStorage.credentials.name := by
  constructor
  · intro h
    cases h with
    | password plan user unaskable =>
      obtain rfl := Except.ok.inj (hp.symm.trans plan)
      exact .inl ⟨user, unaskable⟩
    | keys plan obtained user unaskable =>
      obtain rfl := Except.ok.inj (hp.symm.trans plan)
      exact .inr ⟨⟨_, obtained⟩, user, unaskable⟩
  · rintro (⟨user, unaskable⟩ | ⟨⟨password, obtained⟩, user, unaskable⟩)
    · exact .password hp user unaskable
    · exact .keys hp obtained user unaskable

/-- A secret with the database password that cannot be asked for is the user's. -/
theorem user_of_unaskable_password (hp : a.plan r = .ok p) (hn : LegalName p.name)
    (h : ¬Askable p.database.credentials.name) : p.database.credentials.ownership = .user := by
  cases ho : p.database.credentials.ownership with
  | user => rfl
  | operator =>
    obtain ⟨custom, hpassword⟩ := plan_database hp
    rw [hpassword] at ho h
    rw [CredentialReference.database_of_operator ho] at h
    exact absurd (askable_databaseSecret hn) h

/-- A secret with the keys of object storage that cannot be asked for is the user's. -/
theorem user_of_unaskable_keys (hp : a.plan r = .ok p) (hn : LegalName p.name)
    (h : ¬Askable p.objectStorage.credentials.name) :
    p.objectStorage.credentials.ownership = .user := by
  cases ho : p.objectStorage.credentials.ownership with
  | user => rfl
  | operator =>
    obtain ⟨custom, hkeys⟩ := plan_storage hp
    rw [hkeys] at ho h
    rw [CredentialReference.storage_of_operator ho] at h
    exact absurd (askable_storageSecret hn) h

/-- What a resolution sends with a plan: what a pass over the password sends, and behind a password
that was obtained what a pass over the keys sends. -/
theorem resolve_gives_requests (hp : a.plan r = .ok p)
    (h : ((a.resolve r fresh).expand (StoreCall.perform owner)).Gives es x) :
    (∃ e, ((p.database.credentials.ensure fresh).expand (StoreCall.perform owner)).Gives es
        (.error e) ∧ x = .error e) ∨
    ∃ es₁ es₂ password y, es = es₁ ++ es₂ ∧
      ((p.database.credentials.ensure fresh).expand (StoreCall.perform owner)).Gives es₁
        (.ok password) ∧
      ((p.objectStorage.credentials.ensure fresh).expand (StoreCall.perform owner)).Gives es₂ y ∧
      x = y.map fun keys => p.complete password keys := by
  obtain ⟨qs, hgives, hc⟩ := gives_expand.mp h
  rcases (resolve_gives_of_plan hp).mp hgives with
    ⟨e, hcourse, hx⟩ | ⟨qs₁, qs₂, password, rfl, hpassword, hkeys⟩
  · exact .inl ⟨e, gives_expand.mpr ⟨qs, CredentialReference.ensure_gives_iff.mpr hcourse, hc⟩, hx⟩
  · obtain ⟨es₁, es₂, rfl, hc₁, hc₂⟩ := hc.exists_append
    have hgives₁ := gives_expand.mpr ⟨qs₁, CredentialReference.ensure_gives_iff.mpr hpassword, hc₁⟩
    rcases hkeys with ⟨e, hcourse, hx⟩ | ⟨keys, hcourse, hx⟩
    · exact .inr ⟨es₁, es₂, password, .error e, rfl, hgives₁,
        gives_expand.mpr ⟨qs₂, CredentialReference.ensure_gives_iff.mpr hcourse, hc₂⟩, hx⟩
    · exact .inr ⟨es₁, es₂, password, .ok keys, rfl, hgives₁,
        gives_expand.mpr ⟨qs₂, CredentialReference.ensure_gives_iff.mpr hcourse, hc₂⟩, hx⟩

/-- With correct replies a resolution ends with a fault exactly if it comes upon a secret that
cannot be asked for. -/
theorem resolve_fault_iff (hspace : a.metadata.space = some space) (hs : LegalName space)
    (hname : a.metadata.name = some name) (hn : LegalName name)
    (h : ((a.resolve r fresh).expand (StoreCall.perform owner)).Gives es x)
    (hanswered : ∀ e ∈ es, Answered e) :
    (∃ fault, x = .error (.store fault)) ↔ a.ComesUponUnaskable r fresh owner es := by
  cases hp : a.plan r with
  | error mistake =>
    obtain ⟨qs, hgives, -⟩ := gives_expand.mp h
    obtain ⟨-, rfl⟩ := (resolve_gives_of_mistake hp).mp hgives
    refine iff_of_false ?_ fun hcomes => ?_
    · rintro ⟨fault, ⟨⟩⟩
    · cases hcomes with
      | password plan | keys plan => cases hp.symm.trans plan
  | ok p =>
    obtain ⟨hname', hspace'⟩ := plan_metadata hp
    obtain rfl : p.name = name := Option.some.inj (hname'.symm.trans hname)
    obtain rfl : p.space = space := Option.some.inj (hspace'.symm.trans hspace)
    obtain ⟨hdatabase, hstorage⟩ := plan_spaces hp
    have hs₁ : LegalName p.database.credentials.space := hdatabase ▸ hs
    have hs₂ : LegalName p.objectStorage.credentials.space := hstorage ▸ hs
    rw [comesUponUnaskable_iff hp]
    rcases resolve_gives_requests hp h with
      ⟨e, hpassword, rfl⟩ | ⟨es₁, es₂, password, y, rfl, hpassword, hkeys, rfl⟩
    · -- the password is not obtained
      have hiff := CredentialReference.fault_iff_of_answered hs₁ hpassword hanswered
      constructor
      · rintro ⟨fault, ⟨⟩⟩
        have hunaskable := hiff.mp ⟨fault, rfl⟩
        exact .inl ⟨user_of_unaskable_password hp hn hunaskable, hunaskable⟩
      · rintro (⟨-, hunaskable⟩ | ⟨⟨password, hobtained⟩, -⟩)
        · obtain ⟨fault, hfault⟩ := hiff.mpr hunaskable
          cases hfault
          exact ⟨fault, rfl⟩
        · cases hpassword.unique hobtained
    · -- the password is obtained
      have hiff := CredentialReference.fault_iff_of_answered hs₂ hkeys fun e he =>
        hanswered e (List.mem_append_right es₁ he)
      constructor
      · rintro ⟨fault, hx⟩
        have hunaskable : ¬Askable p.objectStorage.credentials.name := by
          cases y with
          | error e =>
            cases hx
            exact hiff.mp ⟨fault, rfl⟩
          | ok keys => cases hx
        obtain ⟨rfl, -⟩ := CredentialReference.fault_of_unaskable hs₂ hunaskable hkeys
        rw [List.append_nil]
        exact .inr ⟨⟨password, hpassword⟩, user_of_unaskable_keys hp hn hunaskable, hunaskable⟩
      · rintro (⟨-, hunaskable⟩ | ⟨-, -, hunaskable⟩)
        · obtain ⟨-, fault, hfault⟩ :=
            CredentialReference.fault_of_unaskable hs₁ hunaskable hpassword
          cases hfault
        · obtain ⟨fault, rfl⟩ := hiff.mpr hunaskable
          exact ⟨fault, rfl⟩

end Application

/-! ## A pass -/

namespace Manifest

variable {m : Manifest} {r : Registry} {intervals : Intervals} {fresh : Material}
  {now : Timestamp} {space name uid : String} {es : List RequestExchange}
  {y : Except ReconcileError UInt64}

/-- A verdict is recorded in the status of an application: the status tells it already, or one that
tells it is written and accepted. -/
inductive Records (m : Manifest) (space name : String) (v : Verdict) :
    List RequestExchange → Prop where
  | already {status : Status} (current : m.toApplication.status = some status)
      (tells : status.tells v = true) : Records m space name v []
  | written {status : Status} {q : Request} {reply : Reply} {m' : Manifest}
      (writes : q.Writes space name status) (tells : status.tells v = true)
      (accepted : reply.read shape = .ok m') : Records m space name v [⟨q, reply⟩]

/-- With correct replies a report passes on a fault of the store, and records everything else. -/
theorem Ending.recorded (hs : LegalName space) (hn : LegalName name)
    {x : Except ResolutionError Resolution} (h : m.Ending intervals space name now x es y)
    (hanswered : ∀ e ∈ es, Answered e) :
    (es = [] ∧ ∃ fault, x = .error (.store fault) ∧ y = .error (.store fault)) ∨
      ∃ v seconds, Finds intervals x v seconds ∧ m.Records space name v es ∧ y = .ok seconds := by
  cases h with
  | fault fault => exact .inl ⟨rfl, fault, rfl, rfl⟩
  | @told x v seconds finds none =>
    have htold := Verdict.nextStatus_eq_none_iff.mp none
    cases hcurrent : m.toApplication.status with
    | none =>
      rw [hcurrent] at htold
      cases htold
    | some current =>
      rw [hcurrent, Option.any_some] at htold
      exact .inr ⟨v, seconds, finds, .already hcurrent htold, rfl⟩
  | @barred x v seconds status fault finds next barred =>
    obtain ⟨q, hq⟩ := exists_statusRequest hs hn status
    cases hq.symm.trans (statusRequest_eq_error_iff.mpr barred)
  | @written x v seconds status q reply m' finds next writes accepted =>
    obtain ⟨since, rfl⟩ := Verdict.exists_since_of_nextStatus next
    exact .inr ⟨v, seconds, finds, .written writes (Verdict.tells_status v since now) accepted, rfl⟩
  | @refused x v seconds status q reply fault finds next writes refusal =>
    have hreply := hanswered ⟨q, reply⟩ (List.mem_singleton_self _)
    rw [Answered, writes.method] at hreply
    obtain ⟨m', hread⟩ := hreply
    cases hread.symm.trans refusal

/-- With correct replies a pass over an application with legal names ends in one of two ways.  If it
comes upon a secret of the user's that cannot be asked for, it ends with a fault of the store, and
nothing is recorded.  Otherwise there is a verdict on the resolution, so that what fails is a
mistake, and the verdict is recorded. -/
theorem mistakes_recorded_unless_unaskable (hspace : m.metadata.space = some space)
    (hname : m.metadata.name = some name) (hid : m.metadata.uid = some uid)
    (hs : LegalName space) (hn : LegalName name)
    (h : (m.reconcile r intervals fresh now).Gives es y) (hanswered : ∀ e ∈ es, Answered e) :
    let owner : OwnerReference := ⟨apiVersion, none, some true, kind, name, uid⟩
    ∃ secrets status x, es = secrets ++ status ∧
      ((m.toApplication.resolve r fresh).expand (StoreCall.perform owner)).Gives secrets x ∧
      ((m.toApplication.ComesUponUnaskable r fresh owner secrets ∧ status = [] ∧
          ∃ fault, x = .error (.store fault) ∧ y = .error (.store fault)) ∨
        (¬m.toApplication.ComesUponUnaskable r fresh owner secrets ∧
          ∃ v seconds, Finds intervals x v seconds ∧ m.Records space name v status ∧
            y = .ok seconds)) := by
  intro owner
  cases reconcile_gives_iff.mp h with
  | homeless home => cases hspace.symm.trans home
  | ownerless home lacks =>
    rcases lacks with lacks | lacks
    · cases hname.symm.trans lacks
    · cases hid.symm.trans lacks
  | @reported space' own uid' secrets status x y home name' id resolves patchless ending =>
    obtain rfl : space' = space := Option.some.inj (home.symm.trans hspace)
    obtain rfl : own = name := Option.some.inj (name'.symm.trans hname)
    obtain rfl : uid' = uid := Option.some.inj (id.symm.trans hid)
    have hfault := Application.resolve_fault_iff (a := m.toApplication) hspace hs hname hn resolves
      fun e he => hanswered e (List.mem_append_left status he)
    refine ⟨secrets, status, x, rfl, resolves, ?_⟩
    rcases ending.recorded hs hn fun e he => hanswered e (List.mem_append_right secrets he) with
      ⟨hnothing, fault, hx, hy⟩ | ⟨v, seconds, hfinds, hrecords, hy⟩
    · exact .inl ⟨hfault.mp ⟨fault, hx⟩, hnothing, fault, hx, hy⟩
    · refine .inr ⟨fun hcomes => ?_, v, seconds, hfinds, hrecords, hy⟩
      obtain ⟨fault, rfl⟩ := hfault.mpr hcomes
      cases hfinds

/-! ## A database with a secret of the user's -/

/-- A manifest whose database has its password in a secret of a name that the user gives, as it is
written. -/
def relyingDocument (secret : String) : Json :=
  .obj [("metadata", .obj [("name", .str "sample"), ("namespace", .str "pipelines"),
      ("uid", .str "1")]),
    ("spec", .obj [
      ("database", .obj [("externalDB", .obj [("host", .str "db.example.com"),
        ("port", .str "3306"), ("username", .str "svc"), ("pipelineDBName", .str "pipelines"),
        ("passwordSecret", .obj [("name", .str secret), ("key", .str "pw")])])]),
      ("objectStorage", .obj [("minio", .obj [("image", .str "minio:1")])])])]

/-- That manifest. -/
def relying (secret : String) : Manifest where
  metadata := Application.plain.metadata
  spec :=
    { components := { dspVersion := "v1", engineDriver := "argo" }
      database := some
        { external := some ⟨"db.example.com", "3306", "svc", "pipelines", ⟨secret, "pw"⟩⟩ }
      objectStorage := { managed := some { deploy := true, image := "minio:1" } } }
  status := none

/-- A server that keeps it, and no secrets. -/
def relyingServer (secret : String) : Server where
  manifests := [(("pipelines", "sample"), relyingDocument secret)]

theorem relyingServer_holds (secret : String) :
    (Server.cluster "pipelines" "sample").Holds (relyingServer secret) (relying secret) none := by
  refine ⟨⟨⟨_, .null, rfl, by simp [relyingDocument, Json.members]⟩, ?_⟩, rfl⟩
  change (Json.obj ((relyingDocument secret).members ++ [("status", .null)])).Plain 127
  simp [relyingDocument, Json.members, Json.plain_obj_iff]

theorem legalName_pipelines : LegalName "pipelines" := by decide

theorem legalName_sample : LegalName "sample" := by decide

/-- A secret of the user's with a name can be asked for, whatever the pass has sent. -/
theorem not_comesUponUnaskable_relying {fresh : Material} {owner : OwnerReference}
    {secrets : List RequestExchange} :
    ¬(relying "absent").toApplication.ComesUponUnaskable ⟨∅⟩ fresh owner secrets := by
  obtain ⟨p, hp, hpassword, hkeys⟩ : ∃ p, (relying "absent").toApplication.plan ⟨∅⟩ = .ok p ∧
      p.database.credentials.name = "absent" ∧
      p.objectStorage.credentials.ownership = .operator := ⟨_, rfl, rfl, rfl⟩
  rw [Application.comesUponUnaskable_iff hp, hpassword, hkeys]
  rintro (⟨-, hunaskable⟩ | ⟨-, huser, -⟩)
  · exact hunaskable ⟨by decide, by decide⟩
  · cases huser

/-- On a server without secrets there is a verdict on it, and the verdict is recorded. -/
theorem mistakes_recorded_unless_unaskable_absent :
    let pass := (relying "absent").reconcile ⟨∅⟩ ⟨30, 60⟩ (.repeating 0)
      ⟨⟨2024, 2, 29⟩, ⟨23, 59, 60, 0⟩, by decide, by decide⟩
    let resolution := ((relying "absent").toApplication.resolve ⟨∅⟩
      (.repeating 0)).expand
        (StoreCall.perform ⟨apiVersion, none, some true, kind, "sample", "1"⟩)
    ∃ secrets status x v seconds, pass.Gives (secrets ++ status) (.ok seconds) ∧
      (∀ e ∈ secrets ++ status, Answered e) ∧ resolution.Gives secrets x ∧
      Finds ⟨30, 60⟩ x v seconds ∧ (relying "absent").Records "pipelines" "sample" v status := by
  intro pass resolution
  obtain ⟨es, hgives, hfollows⟩ :=
    exists_gives_run (fun q (s : Server) => s.answer q) pass (relyingServer "absent")
  have hanswered : ∀ e ∈ es, Answered e := Server.answered_of_reconcile
    legalName_pipelines.isSegment legalName_sample.isSegment rfl rfl rfl
    (relyingServer_holds "absent") hgives hfollows
  obtain ⟨secrets, status, x, rfl, hresolution,
      ⟨hcomes, -⟩ | ⟨-, v, seconds, hfinds, hrecords, hy⟩⟩ :=
    mistakes_recorded_unless_unaskable rfl rfl rfl legalName_pipelines legalName_sample hgives
      hanswered
  · exact absurd hcomes not_comesUponUnaskable_relying
  · rw [hy] at hgives
    exact ⟨secrets, status, x, v, seconds, hgives, hanswered, hresolution, hfinds, hrecords⟩

/-- If the user leaves the name of the secret empty, nothing is sent, whatever the server would
answer: the mistake passes for a fault of the store. -/
theorem emptyName_blamed_on_store :
    shape.ofJson (relyingDocument "") = .ok (relying "") ∧
    (relying "").metadata.space = some "pipelines" ∧ (relying "").metadata.name = some "sample" ∧
    (relying "").metadata.uid = some "1" ∧ LegalName "pipelines" ∧ LegalName "sample" ∧
    ∀ es y, ((relying "").reconcile ⟨∅⟩ ⟨30, 60⟩ (.repeating 0)
        ⟨⟨2024, 2, 29⟩, ⟨23, 59, 60, 0⟩, by decide, by decide⟩).Gives es y ↔
      es = [] ∧ y = .error (.store .emptyName) := by
  refine ⟨rfl, rfl, rfl, rfl, legalName_pipelines, legalName_sample, fun es y => ?_⟩
  have hpass : (relying "").reconcile ⟨∅⟩ ⟨30, 60⟩ (.repeating 0)
      ⟨⟨2024, 2, 29⟩, ⟨23, 59, 60, 0⟩, by decide, by decide⟩ =
      .tellAll ((relying "").toApplication.defaultedBlocks.map (.defaultedBlock "sample"))
        (.done (.error (.store .emptyName))) := rfl
  rw [hpass]
  exact gives_tellAll.trans gives_done

end Manifest

end PipelinesOperator
