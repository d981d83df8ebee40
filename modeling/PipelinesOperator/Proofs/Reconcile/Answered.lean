import PipelinesOperator.Proofs.Reconcile.Outcome

/-!
# Correct replies

A server answers the requests of a pass as it should if it shows a secret that is there and says so
of one that is not, and if it sends back the application whose status it was sent.  The server that
keeps its word answers every pass so, over an application that it keeps.  Each request of a pass is
answered so and leaves the application in place, so all of them are.

## Main definitions

* `Answered`: a request with a reply as it should be
* `Request.OfPass`: the requests that a pass may send

## Main results

* `Manifest.ofPass_of_reconcile`: a pass sends no other requests
* `Server.answered_of_holds`: one request of a pass, and the state behind it
* `Server.answered_of_reconcile`: a pass from its beginning to its end
-/

namespace PipelinesOperator

open Dialogue

/-- A request is answered as it should be: fetching a secret shows it or says that there is none,
making one shows it or says that there is one already, and writing a status shows the
application. -/
def Answered (e : RequestExchange) : Prop :=
  match e.1.method with
  | .get => (∃ fields, e.2.Shows fields) ∨ e.2.SaysAbsent
  | .post => (∃ fields, e.2.Shows fields) ∨ e.2.SaysTaken
  | .patch => ∃ m, e.2.read Manifest.shape = .ok m

/-! ## What a pass sends -/

/-- The requests that a pass may send for an application: to fetch secrets, to make them for its
sake, and to write its status. -/
inductive Request.OfPass (space own uid : String) (q : Request) : Prop where
  | fetch (method : q.method = .get)
  | make {secret : String} {fields : SecretFields} (makes : Secret.createRequest space
      (.owned ⟨Manifest.apiVersion, none, some true, Manifest.kind, own, uid⟩ space secret fields) =
        .ok q)
  | write {status : Status} (writes : Manifest.statusRequest space own status = .ok q)

section Pass

variable {m : Manifest} {r : Registry} {intervals : Intervals} {fresh : Material}
  {now : Timestamp} {space own uid name : String} {es : List RequestExchange}

/-- A request that is written as one for a secret of the operator is that request. -/
theorem Secret.createRequest_of_makes {q : Request} {fields : SecretFields}
    (h : q.Makes space (Secret.sent own uid space name fields.entries)) :
    Secret.createRequest space (.owned
      ⟨Manifest.apiVersion, none, some true, Manifest.kind, own, uid⟩ space name fields) =
        .ok q := by
  obtain ⟨hmethod, htarget, hbody⟩ := h
  obtain ⟨method, target, body⟩ := q
  subst hmethod hbody
  rw [Secret.createRequest, secretsTarget_eq, Secret.write_owned, Request.of, htarget]
  rfl

/-- For a credential only secrets of its namespace are made. -/
theorem CredentialReference.Sends.ofPass {ref : CredentialReference} {fields : SecretFields}
    (h : ref.Sends own uid fields.entries es) (hspace : ref.space = space) :
    ∀ e ∈ es, e.1.OfPass space own uid := by
  subst hspace
  cases h with
  | nothing => simp
  | fetch fetches =>
    rw [List.forall_mem_singleton]
    exact .fetch fetches.method
  | make fetches absent operator makes =>
    simp only [List.forall_mem_cons, List.not_mem_nil, false_implies, implies_true, and_true]
    exact ⟨.fetch fetches.method, .make (Secret.createRequest_of_makes makes)⟩
  | fetchAgain fetches absent operator makes taken again =>
    simp only [List.forall_mem_cons, List.not_mem_nil, false_implies, implies_true, and_true]
    exact ⟨.fetch fetches.method, .make (Secret.createRequest_of_makes makes), .fetch again.method⟩

namespace Manifest

/-- What is sent for the secrets of an application. -/
theorem SecretRequests.ofPass (h : m.SecretRequests r fresh es)
    (hspace : m.metadata.space = some space) (hname : m.metadata.name = some own)
    (hid : m.metadata.uid = some uid) : ∀ e ∈ es, e.1.OfPass space own uid := by
  have hspaces {p : Plan} (plan : m.toApplication.plan r = .ok p) :
      p.database.credentials.space = space ∧ p.objectStorage.credentials.space = space := by
    obtain rfl := Option.some.inj ((Application.plan_metadata plan).2.symm.trans hspace)
    exact Application.plan_spaces plan
  have hpassword {p : Plan} {es : List RequestExchange} (plan : m.toApplication.plan r = .ok p)
      (sends : p.database.credentials.Sends own uid [("password", fresh.password)] es) :
      ∀ e ∈ es, e.1.OfPass space own uid := by
    rw [← CredentialReference.entries_toFields_database p.space p.name fresh] at sends
    exact sends.ofPass (hspaces plan).1
  have hkeys {p : Plan} {es : List RequestExchange} (plan : m.toApplication.plan r = .ok p)
      (sends : p.objectStorage.credentials.Sends own uid
        [("accesskey", fresh.accessKey), ("secretkey", fresh.secretKey)] es) :
      ∀ e ∈ es, e.1.OfPass space own uid := by
    rw [← CredentialReference.entries_toFields_storage p.space p.name fresh] at sends
    exact sends.ofPass (hspaces plan).2
  cases h with
  | nothing => simp
  | password plan name id sends =>
    obtain rfl := Option.some.inj (name.symm.trans hname)
    obtain rfl := Option.some.inj (id.symm.trans hid)
    exact hpassword plan sends
  | keys plan name id obtains sends =>
    obtain rfl := Option.some.inj (name.symm.trans hname)
    obtain rfl := Option.some.inj (id.symm.trans hid)
    intro e he
    rcases List.mem_append.mp he with he | he
    · exact hpassword plan obtains.sends e he
    · exact hkeys plan sends e he

/-- A pass sends no other requests. -/
theorem ofPass_of_reconcile {y : Except ReconcileError UInt64}
    (hspace : m.metadata.space = some space) (hname : m.metadata.name = some own)
    (hid : m.metadata.uid = some uid) (h : (m.reconcile r intervals fresh now).Gives es y) :
    ∀ e ∈ es, e.1.OfPass space own uid := by
  cases reconcile_gives_iff.mp h with
  | homeless home => simp
  | ownerless home lacks => simp
  | @reported space' own' uid' secrets status x y home name id resolves patchless ending =>
    obtain rfl := Option.some.inj (home.symm.trans hspace)
    obtain rfl := Option.some.inj (name.symm.trans hname)
    have howner : m.ownerReference? = some ⟨apiVersion, none, some true, kind, own', uid'⟩ := by
      rw [ownerReference?, name, id]
      rfl
    obtain ⟨qs, hgives, hc⟩ := gives_expand.mp resolves
    have hsecrets := (secretRequests_of_resolve howner hgives hc).ofPass hspace hname hid
    intro e he
    rcases List.mem_append.mp he with he | he
    · exact hsecrets e he
    · cases ending with
      | fault | told | barred => cases he
      | written finds next writes | refused finds next writes =>
        obtain rfl := List.mem_singleton.mp he
        exact .write (statusRequest_eq_ok_iff.mpr writes)

end Manifest

end Pass

/-! ## What a server answers -/

namespace Server

variable {m : Manifest} {r : Registry} {intervals : Intervals} {fresh : Material}
  {now : Timestamp} {space own uid : String} {request : Request} {s s' : Server}
  {status : Option Status} {es : List RequestExchange}

/-- An error of the server is read as the record that it was made of. -/
theorem exists_ofResponse_error (code : UInt16) (reason message : String)
    (hcode : 400 ≤ code ∧ code ≤ 599) : ∃ code' text,
      error code reason message = .response code' text ∧ (400 ≤ code' ∧ code' ≤ 599) ∧
      ApiError.ofResponse code' text = ⟨"Failure", message, reason, code⟩ := by
  have hread : (error code reason message).read Secret.shape =
      .error (.api ⟨"Failure", message, reason, code⟩) := read_error reason message hcode
  exact Reply.read_eq_api hread

theorem saysAbsent_error (message : String) : (error 404 "NotFound" message).SaysAbsent := by
  obtain ⟨code, text, hreply, hcode, hrecord⟩ :=
    exists_ofResponse_error 404 "NotFound" message (by decide)
  exact ⟨code, text, hreply, hcode, congrArg ApiError.reason hrecord⟩

theorem saysTaken_error (message : String) : (error 409 "AlreadyExists" message).SaysTaken := by
  obtain ⟨code, text, hreply, hcode, hrecord⟩ :=
    exists_ofResponse_error 409 "AlreadyExists" message (by decide)
  exact ⟨code, text, hreply, hcode, congrArg ApiError.code hrecord⟩

/-- Whatever is fetched is shown or said not to be there, and stays as it is. -/
theorem answered_of_get (h : request.method = .get) (s : Server) :
    Answered ⟨request, (s.answer request).1⟩ ∧ (s.answer request).2 = s := by
  rw [Answered, answer]
  simp only [h]
  split
  · rename_i space name _ _
    refine ⟨?_, rfl⟩
    rw [getSecret]
    cases s.secrets.lookup (space, name) with
    | some data =>
      obtain ⟨secret, hread, -⟩ := read_shown space name data
      exact .inl ⟨_, secret, hread, rfl⟩
    | none => exact .inr (saysAbsent_error _)
  · rename_i hpost _
    cases hpost
  · rename_i hpatch _
    cases hpatch
  · exact ⟨.inr (saysAbsent_error _), rfl⟩

/-- A secret that is sent is made, or said to be there already, and the applications stay. -/
theorem answered_of_create {secret : String} {fields : SecretFields} (hs : IsSegment space)
    (h : Secret.createRequest space (.owned
      ⟨Manifest.apiVersion, none, some true, Manifest.kind, own, uid⟩ space secret fields) =
        .ok request) (s : Server) :
    Answered ⟨request, (s.answer request).1⟩ ∧
      (s.answer request).2.manifests = s.manifests ∧
      (s.answer request).2.statuses = s.statuses := by
  rw [Answered, (Request.of_eq_ok h).1, answer_createRequest hs h, createSecret]
  simp only [Secret.ofJson_write_owned]
  split
  · exact ⟨.inr (saysTaken_error _), rfl, rfl⟩
  · exact ⟨.inl ⟨_, _, read_owned _ space secret fields, rfl⟩, rfl, rfl⟩

/-- A request of a pass over an application that the server holds is answered as it should be, and
behind it the server holds the application. -/
theorem answered_of_holds (hs : IsSegment space) (hn : IsSegment own)
    (hheld : (cluster space own).Holds s m status) (h : request.OfPass space own uid) :
    Answered ⟨request, (s.answer request).1⟩ ∧
      ∃ status', (cluster space own).Holds (s.answer request).2 m status' := by
  cases h with
  | fetch method =>
    obtain ⟨hanswered, hsame⟩ := answered_of_get method s
    rw [hsame]
    exact ⟨hanswered, status, hheld⟩
  | make makes =>
    obtain ⟨hanswered, hmanifests, hstatuses⟩ := answered_of_create hs makes s
    have hobject : (cluster space own).object (s.answer request).2 =
        (cluster space own).object s := by
      simp only [cluster, status?, hmanifests, hstatuses]
    exact ⟨hanswered, status, by rwa [Cluster.Holds, hobject]⟩
  | @write status' writes =>
    obtain ⟨-, hobject, htellable, hreply⟩ := answer_statusRequest_merges hs hn writes hheld.1
    have hheld' : (cluster space own).Holds (s.answer request).2 m (some status') := by
      refine ⟨htellable, ?_⟩
      change Manifest.shape.ofJson
        (.obj ((cluster space own).object ((cluster space own).answer request s).2)) = _
      rw [hobject]
      exact Manifest.ofJson_mergePatch hheld.2 status'
    refine ⟨?_, some status', hheld'⟩
    rw [Answered, (Manifest.segments_statusRequest hs hn writes).1]
    exact hreply _ hheld'.2

/-- So are the requests of a pass one after the other. -/
theorem answered_of_follows (hs : IsSegment space) (hn : IsSegment own)
    (hheld : (cluster space own).Holds s m status) (h : ∀ e ∈ es, e.1.OfPass space own uid)
    (hf : Follows (fun q (s : Server) => s.answer q) es s s') : ∀ e ∈ es, Answered e := by
  induction es generalizing s status with
  | nil => simp
  | cons e es ih =>
    obtain ⟨q, reply⟩ := e
    obtain ⟨rfl, hf⟩ := hf
    obtain ⟨hq, hes⟩ := List.forall_mem_cons.mp h
    obtain ⟨hanswered, status', hheld'⟩ := answered_of_holds hs hn hheld hq
    exact List.forall_mem_cons.mpr ⟨hanswered, ih hheld' hes hf⟩

/-- The server answers every pass over an application that it holds as it should. -/
theorem answered_of_reconcile {y : Except ReconcileError UInt64} (hs : IsSegment space)
    (hn : IsSegment own) (hspace : m.metadata.space = some space)
    (hname : m.metadata.name = some own) (hid : m.metadata.uid = some uid)
    (hheld : (cluster space own).Holds s m m.toApplication.status)
    (h : (m.reconcile r intervals fresh now).Gives es y)
    (hf : Follows (fun q (s : Server) => s.answer q) es s s') : ∀ e ∈ es, Answered e :=
  answered_of_follows hs hn hheld (Manifest.ofPass_of_reconcile hspace hname hid h) hf

end Server

end PipelinesOperator
