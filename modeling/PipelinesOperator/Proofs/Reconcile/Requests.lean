import PipelinesOperator.Proofs.Json.Frame
import PipelinesOperator.Proofs.Reconcile.Quiet

/-!
# The requests of a pass

Whatever the server answers, a pass keeps to a fixed order of requests.  For each credential, the
password first, it fetches the secret; it sends a secret of its own only if the operator answers
for that one and the server said that there was none; and it fetches again only if the server said
that there was one after all.  The keys are looked for only behind a password that was obtained,
and a status is the last thing that is sent.

The server is not trusted in anything here: it may answer by any code with any text, or not at all.

## Main definitions

* `Request.Fetches`, `Request.Makes`, `Request.Reports`: what a request asks for, as it is written
* `Secret.sent`: a secret as the operator sends it
* `Reply.SaysAbsent`, `Reply.SaysTaken`, `Reply.Shows`: what a reply says of a secret
* `CredentialReference.Sends`, `CredentialReference.Obtains`: the requests for one credential, and
  those behind which there is one
* `Manifest.SecretRequests`, `Manifest.StatusRequests`: the requests of a pass

## Main results

* `sends_of_course`: the courses of a pass over one credential, as requests
* `gives_record`, `gives_report`: how a verdict is recorded, and an outcome reported
* `secretRequests_of_resolve`, `statusRequests_of_report`: the two parts of a pass, as requests
* `reconcile_keeps_to_its_requests`: all that a pass sends, in order
-/

namespace PipelinesOperator

open Dialogue

/-- A request with the reply that it got. -/
abbrev RequestExchange := Exchange Request fun _ => Reply

/-! ## What is asked and what is said -/

namespace Request

/-- A request that fetches a secret. -/
structure Fetches (q : Request) (space name : String) : Prop where
  method : q.method = .get
  target : Target.ofText? ("/api/v1/namespaces/" ++ space ++ "/secrets/" ++ name).toList =
    some q.target
  body : q.body = none

/-- A request that makes a secret. -/
structure Makes (q : Request) (space : String) (secret : Json) : Prop where
  method : q.method = .post
  target : Target.ofText? ("/api/v1/namespaces/" ++ space ++ "/secrets?").toList = some q.target
  body : q.body = some ⟨"application/json", secret⟩

/-- A request that writes the status of an application. -/
structure Reports (q : Request) (space name : String) : Prop where
  method : q.method = .patch
  target : Target.ofText?
    ("/apis/datasciencepipelinesapplications.opendatahub.io/v1alpha1/namespaces/" ++ space ++
      "/datasciencepipelinesapplications/" ++ name ++
      "/status?&fieldManager=operator.datasciencepipelines.opendatahub.io").toList = some q.target
  body : ∃ status, q.body = some ⟨"application/merge-patch+json", .obj [("status", status)]⟩

/-- The name of the secret that a request makes, if it makes one. -/
def made? (q : Request) : Option Json :=
  if q.method = .post then q.body.bind fun body => body.content.at? ["metadata", "name"] else none

end Request

/-- A secret as the operator sends it: with the label of the operator, the application as the one
owner, which controls it, and the data in base64. -/
def Secret.sent (own uid space name : String) (data : List (String × List UInt8)) : Json :=
  .obj [("apiVersion", .str "v1"),
    ("data", .obj (data.map fun e => (e.1, .str (String.ofList (Base64.encode e.2))))),
    ("kind", .str "Secret"),
    ("metadata", .obj [
      ("labels", .obj [("app.kubernetes.io/managed-by", .str "data-science-pipelines-operator")]),
      ("name", .str name),
      ("namespace", .str space),
      ("ownerReferences", .arr [.obj [
        ("apiVersion", .str "datasciencepipelinesapplications.opendatahub.io/v1alpha1"),
        ("controller", .bool true),
        ("kind", .str "DataSciencePipelinesApplication"),
        ("name", .str own),
        ("uid", .str uid)]])]),
    ("type", .str "Opaque")]

namespace Reply

variable {α : Type} {shape : Shape α} {reply : Reply} {fields : SecretFields}

/-- A reply that says that there is no such object: an error whose record gives that as the
reason. -/
def SaysAbsent (reply : Reply) : Prop :=
  ∃ code text, reply = .response code text ∧ (400 ≤ code ∧ code ≤ 599) ∧
    (ApiError.ofResponse code text).reason = "NotFound"

/-- A reply that says that there is such an object already: an error whose record has the code of a
conflict. -/
def SaysTaken (reply : Reply) : Prop :=
  ∃ code text, reply = .response code text ∧ (400 ≤ code ∧ code ≤ 599) ∧
    (ApiError.ofResponse code text).code = 409

/-- A reply that shows a secret with some fields. -/
def Shows (reply : Reply) (fields : SecretFields) : Prop :=
  ∃ secret, reply.read Secret.shape = .ok secret ∧ secret.fields = fields

/-- An error of the server comes from a code that is one. -/
theorem read_eq_api {e : ApiError} (h : reply.read shape = .error (.api e)) :
    ∃ code text, reply = .response code text ∧ (400 ≤ code ∧ code ≤ 599) ∧
      ApiError.ofResponse code text = e := by
  cases reply with
  | unreachable message => cases h
  | response code text =>
    rw [read] at h
    split at h
    · rename_i hcode
      cases h
      exact ⟨code, text, rfl, hcode, rfl⟩
    · cases hread : JsonText.read shape text.toList with
      | ok a =>
        rw [hread] at h
        cases h
      | error f =>
        rw [hread] at h
        cases h

theorem saysAbsent_of_found (h : Secret.found reply = .ok none) : reply.SaysAbsent := by
  rw [Secret.found] at h
  split at h
  · cases h
  · rename_i e hread
    obtain ⟨code, text, hreply, hcode, rfl⟩ := read_eq_api hread
    split at h
    · rename_i habsent
      exact ⟨code, text, hreply, hcode, of_decide_eq_true habsent⟩
    · cases h
  · cases h

theorem shows_of_found (h : Secret.found reply = .ok (some fields)) : reply.Shows fields := by
  rw [Secret.found] at h
  split at h
  · rename_i secret hread
    cases h
    exact ⟨secret, hread, rfl⟩
  · split at h
    · cases h
    · cases h
  · cases h

theorem saysTaken_of_made (h : Secret.made reply = .ok .alreadyExists) : reply.SaysTaken := by
  rw [Secret.made] at h
  split at h
  · cases h
  · rename_i e hread
    obtain ⟨code, text, hreply, hcode, rfl⟩ := read_eq_api hread
    split at h
    · rename_i htaken
      exact ⟨code, text, hreply, hcode, of_decide_eq_true htaken⟩
    · cases h
  · cases h

theorem exists_shows_of_made (h : Secret.made reply = .ok .created) :
    ∃ fields, reply.Shows fields := by
  rw [Secret.made] at h
  split at h
  · rename_i secret hread
    exact ⟨_, secret, hread, rfl⟩
  · split at h
    · cases h
    · cases h
  · cases h

end Reply

/-! ## The requests of store calls -/

section Calls

variable {α : Type} {owner : OwnerReference} {own uid space name : String} {fields : SecretFields}
  {es : List RequestExchange} {q : Request}

/-- The text of the target under which a secret is asked for. -/
theorem secretTarget_eq (space name : String) :
    Secret.target space ++ "/" ++ name = "/api/v1/namespaces/" ++ space ++ "/secrets/" ++ name := by
  have hend : "/secrets" ++ "/" = "/secrets/" := by simp
  calc Secret.target space ++ "/" ++ name
    _ = "/api/v1/namespaces/" ++ space ++ ("/secrets" ++ "/") ++ name := by
      unfold Secret.target
      simp only [String.append_assoc, -String.reduceAppend]
    _ = _ := congrArg ("/api/v1/namespaces/" ++ space ++ · ++ name) hend

/-- The text of the target under which a secret is made. -/
theorem secretsTarget_eq (space : String) :
    Secret.target space ++ "?" = "/api/v1/namespaces/" ++ space ++ "/secrets?" := by
  have hend : "/secrets" ++ "?" = "/secrets?" := by simp
  calc Secret.target space ++ "?"
    _ = "/api/v1/namespaces/" ++ space ++ ("/secrets" ++ "?") := by
      unfold Secret.target
      simp only [String.append_assoc, -String.reduceAppend]
    _ = _ := congrArg ("/api/v1/namespaces/" ++ space ++ ·) hend

/-- The text of the target to which a status is written. -/
theorem statusTarget_eq (space name : String) :
    "/apis/" ++ Manifest.apiVersion ++ "/namespaces/" ++ space ++ "/" ++ Manifest.plural ++ "/" ++
      name ++ "/status?&fieldManager=" ++ Names.fieldManager =
    "/apis/datasciencepipelinesapplications.opendatahub.io/v1alpha1/namespaces/" ++ space ++
      "/datasciencepipelinesapplications/" ++ name ++
      "/status?&fieldManager=operator.datasciencepipelines.opendatahub.io" := by
  have hstart : "/apis/datasciencepipelinesapplications.opendatahub.io/v1alpha1/namespaces/" =
      "/apis/" ++ Manifest.apiVersion ++ "/namespaces/" := by
    simp [Manifest.apiVersion, Manifest.group, Manifest.version]
  have hmiddle : "/datasciencepipelinesapplications/" = "/" ++ Manifest.plural ++ "/" := by
    simp [Manifest.plural]
  have hend : "/status?&fieldManager=operator.datasciencepipelines.opendatahub.io" =
      "/status?&fieldManager=" ++ Names.fieldManager := by
    simp [Names.fieldManager]
  rw [hstart, hmiddle, hend]
  simp only [String.append_assoc]

theorem Request.fetches_of_getRequest (h : Secret.getRequest space name = .ok q) :
    q.Fetches space name := by
  rw [Secret.getRequest] at h
  split at h
  · cases h
  · rw [secretTarget_eq] at h
    obtain ⟨hmethod, htarget, hbody⟩ := Request.of_eq_ok h
    exact ⟨hmethod, htarget, hbody⟩

theorem Request.makes_of_createRequest
    (ho : owner = ⟨Manifest.apiVersion, none, some true, Manifest.kind, own, uid⟩)
    (h : Secret.createRequest space (.owned owner space name fields) = .ok q) :
    q.Makes space (Secret.sent own uid space name fields.entries) := by
  rw [Secret.createRequest, secretsTarget_eq, ho, Secret.write_owned] at h
  obtain ⟨hmethod, htarget, hbody⟩ := Request.of_eq_ok h
  exact ⟨hmethod, htarget, hbody⟩

theorem Request.reports_of_statusRequest {status : Status}
    (h : Manifest.statusRequest space name status = .ok q) : q.Reports space name := by
  rw [Manifest.statusRequest] at h
  split at h
  · cases h
  · rw [statusTarget_eq] at h
    obtain ⟨hmethod, htarget, hbody⟩ := Request.of_eq_ok h
    exact ⟨hmethod, htarget, _, hbody⟩

/-- A request that cannot be made is not sent, and one that can is sent once. -/
theorem gives_send {request : Except ClusterFault Request}
    {next : Reply → Except ClusterFault α} {a : Except ClusterFault α} :
    (Request.send request next).Gives es a ↔
      (∃ fault, request = .error fault ∧ es = [] ∧ a = .error fault) ∨
      ∃ q reply, request = .ok q ∧ es = [⟨q, reply⟩] ∧ a = next reply := by
  cases request with
  | error fault => simp [Request.send]
  | ok q =>
    rw [Request.send, gives_ask]
    constructor
    · rintro ⟨reply, es', rfl, h⟩
      obtain ⟨rfl, rfl⟩ := gives_done.mp h
      exact .inr ⟨q, reply, rfl, rfl, rfl⟩
    · rintro (⟨fault, ⟨⟩, -⟩ | ⟨q', reply, ⟨⟩, rfl, rfl⟩)
      exact ⟨reply, [], rfl, .refl _⟩

/-- A secret is fetched by one request, or by none if the request cannot be made. -/
theorem get_carriedOut {a : Except ClusterFault (Option SecretFields)}
    (h : (StoreCall.perform owner (.get space name)).Gives es a) :
    (es = [] ∧ ∃ fault, a = .error fault) ∨
      ∃ q reply, q.Fetches space name ∧ es = [⟨q, reply⟩] ∧ a = Secret.found reply := by
  rcases gives_send.mp h with ⟨fault, -, rfl, rfl⟩ | ⟨q, reply, hq, rfl, rfl⟩
  · exact .inl ⟨rfl, fault, rfl⟩
  · exact .inr ⟨q, reply, Request.fetches_of_getRequest hq, rfl, rfl⟩

/-- A secret is made by one request, or by none if the request cannot be made. -/
theorem create_carriedOut {a : Except ClusterFault CreateOutcome}
    (ho : owner = ⟨Manifest.apiVersion, none, some true, Manifest.kind, own, uid⟩)
    (h : (StoreCall.perform owner (.create space name fields)).Gives es a) :
    (es = [] ∧ ∃ fault, a = .error fault) ∨
      ∃ q reply, q.Makes space (Secret.sent own uid space name fields.entries) ∧
        es = [⟨q, reply⟩] ∧ a = Secret.made reply := by
  rcases gives_send.mp h with ⟨fault, -, rfl, rfl⟩ | ⟨q, reply, hq, rfl, rfl⟩
  · exact .inl ⟨rfl, fault, rfl⟩
  · exact .inr ⟨q, reply, Request.makes_of_createRequest ho hq, rfl, rfl⟩

end Calls

/-! ## The requests for one credential -/

namespace CredentialReference

variable {r : CredentialReference} {own uid : String} {data : List (String × List UInt8)}
  {owner : OwnerReference} {fresh : Material} {qs : List StoreExchange}
  {es : List RequestExchange}

/-- The requests that a pass may send for one credential, with the data that it has at hand for a
secret of its own. -/
inductive Sends (r : CredentialReference) (own uid : String) (data : List (String × List UInt8)) :
    List RequestExchange → Prop where
  /-- No request can be made, as for a secret without a name. -/
  | nothing : Sends r own uid data []
  | fetch {q : Request} {reply : Reply} (fetches : q.Fetches r.space r.name) :
      Sends r own uid data [⟨q, reply⟩]
  | make {q q' : Request} {reply reply' : Reply} (fetches : q.Fetches r.space r.name)
      (absent : reply.SaysAbsent) (operator : r.ownership = .operator)
      (makes : q'.Makes r.space (Secret.sent own uid r.space r.name data)) :
      Sends r own uid data [⟨q, reply⟩, ⟨q', reply'⟩]
  | fetchAgain {q q' q'' : Request} {reply reply' reply'' : Reply}
      (fetches : q.Fetches r.space r.name) (absent : reply.SaysAbsent)
      (operator : r.ownership = .operator)
      (makes : q'.Makes r.space (Secret.sent own uid r.space r.name data))
      (taken : reply'.SaysTaken) (again : q''.Fetches r.space r.name) :
      Sends r own uid data [⟨q, reply⟩, ⟨q', reply'⟩, ⟨q'', reply''⟩]

/-- The requests behind which a pass has a credential: it was shown, or stored, or shown after
all. -/
inductive Obtains (r : CredentialReference) (own uid : String)
    (data : List (String × List UInt8)) : List RequestExchange → Prop where
  | read {q : Request} {reply : Reply} {fields : SecretFields} {c : Credential}
      (fetches : q.Fetches r.space r.name) (shows : reply.Shows fields) (holds : r.Holds fields c)
      (whole : c.Whole) : Obtains r own uid data [⟨q, reply⟩]
  | made {q q' : Request} {reply reply' : Reply} {fields : SecretFields}
      (fetches : q.Fetches r.space r.name) (absent : reply.SaysAbsent)
      (operator : r.ownership = .operator)
      (makes : q'.Makes r.space (Secret.sent own uid r.space r.name data))
      (stored : reply'.Shows fields) : Obtains r own uid data [⟨q, reply⟩, ⟨q', reply'⟩]
  | adopted {q q' q'' : Request} {reply reply' reply'' : Reply} {fields : SecretFields}
      {c : Credential} (fetches : q.Fetches r.space r.name) (absent : reply.SaysAbsent)
      (operator : r.ownership = .operator)
      (makes : q'.Makes r.space (Secret.sent own uid r.space r.name data))
      (taken : reply'.SaysTaken) (again : q''.Fetches r.space r.name)
      (shows : reply''.Shows fields) (holds : r.Holds fields c) (whole : c.Whole) :
      Obtains r own uid data [⟨q, reply⟩, ⟨q', reply'⟩, ⟨q'', reply''⟩]

theorem Obtains.sends (h : r.Obtains own uid data es) : r.Sends own uid data es := by
  cases h with
  | read fetches => exact .fetch fetches
  | made fetches absent operator makes => exact .make fetches absent operator makes
  | adopted fetches absent operator makes taken again =>
    exact .fetchAgain fetches absent operator makes taken again

theorem Sends.length_le (h : r.Sends own uid data es) : es.length ≤ 3 := by
  cases h with
  | nothing | fetch | make | fetchAgain => simp

/-! ### From calls to requests -/

/-- A fetch that was answered was sent. -/
theorem carriedOut_fetch_ok {found : Option SecretFields}
    (hc : CarriedOut (StoreCall.perform owner) (⟨r.fetch, .ok found⟩ :: qs) es) :
    ∃ q reply es', q.Fetches r.space r.name ∧ Secret.found reply = .ok found ∧
      es = ⟨q, reply⟩ :: es' ∧ CarriedOut (StoreCall.perform owner) qs es' := by
  cases hc with
  | cons head rest =>
    rcases get_carriedOut head with ⟨-, fault, ⟨⟩⟩ | ⟨q, reply, hq, rfl, hfound⟩
    exact ⟨q, reply, _, hq, hfound.symm, rfl, rest⟩

/-- A fetch that failed was sent or not. -/
theorem carriedOut_fetch_error {fault : ClusterFault}
    (hc : CarriedOut (StoreCall.perform owner) [⟨r.fetch, .error fault⟩] es) :
    es = [] ∨ ∃ q reply, q.Fetches r.space r.name ∧ es = [⟨q, reply⟩] := by
  cases hc with
  | cons head rest =>
    cases rest
    rcases get_carriedOut head with ⟨rfl, -⟩ | ⟨q, reply, hq, rfl, -⟩
    · exact .inl rfl
    · exact .inr ⟨q, reply, hq, rfl⟩

/-- A deposit that was answered was sent. -/
theorem carriedOut_deposit_ok {outcome : CreateOutcome}
    (ho : owner = ⟨Manifest.apiVersion, none, some true, Manifest.kind, own, uid⟩)
    (hc : CarriedOut (StoreCall.perform owner) (⟨r.deposit fresh, .ok outcome⟩ :: qs) es) :
    ∃ q reply es', q.Makes r.space (Secret.sent own uid r.space r.name
        (r.toFields (fresh.credential r.kind)).entries) ∧ Secret.made reply = .ok outcome ∧
      es = ⟨q, reply⟩ :: es' ∧ CarriedOut (StoreCall.perform owner) qs es' := by
  cases hc with
  | cons head rest =>
    rcases create_carriedOut ho head with ⟨-, fault, ⟨⟩⟩ | ⟨q, reply, hq, rfl, hmade⟩
    exact ⟨q, reply, _, hq, hmade.symm, rfl, rest⟩

/-- A deposit that failed was sent or not. -/
theorem carriedOut_deposit_error {fault : ClusterFault}
    (ho : owner = ⟨Manifest.apiVersion, none, some true, Manifest.kind, own, uid⟩)
    (hc : CarriedOut (StoreCall.perform owner) [⟨r.deposit fresh, .error fault⟩] es) :
    es = [] ∨ ∃ q reply, q.Makes r.space (Secret.sent own uid r.space r.name
      (r.toFields (fresh.credential r.kind)).entries) ∧ es = [⟨q, reply⟩] := by
  cases hc with
  | cons head rest =>
    cases rest
    rcases create_carriedOut ho head with ⟨rfl, -⟩ | ⟨q, reply, hq, rfl, -⟩
    · exact .inl rfl
    · exact .inr ⟨q, reply, hq, rfl⟩

/-- The courses of a pass over a credential, as requests.  Each call is one request, or none if it
cannot be made, and only the last call of a course can fail. -/
theorem sends_of_course {x : Except ResolutionError (Credential × Origin)}
    (ho : owner = ⟨Manifest.apiVersion, none, some true, Manifest.kind, own, uid⟩)
    (hdata : r.ownership = .operator → (r.toFields (fresh.credential r.kind)).entries = data)
    (h : r.Course fresh qs x) (hc : CarriedOut (StoreCall.perform owner) qs es) :
    r.Sends own uid data es ∧ ∀ c, x = .ok c → r.Obtains own uid data es := by
  cases h with
  | unread fault =>
    refine ⟨?_, nofun⟩
    rcases carriedOut_fetch_error hc with rfl | ⟨q, reply, hq, rfl⟩
    · exact .nothing
    · exact .fetch hq
  | read fields =>
    obtain ⟨q, reply, _, hq, hfound, rfl, hc₁⟩ := carriedOut_fetch_ok hc
    cases hc₁
    refine ⟨.fetch hq, ?_⟩
    rintro ⟨c, o⟩ hx
    obtain ⟨hholds, hwhole⟩ := extract_eq_ok.mp (taken_eq_ok.mp hx).1
    exact .read hq (Reply.shows_of_found hfound) hholds hwhole
  | missing =>
    obtain ⟨q, reply, _, hq, -, rfl, hc₁⟩ := carriedOut_fetch_ok hc
    cases hc₁
    exact ⟨.fetch hq, nofun⟩
  | unstored operator fault =>
    refine ⟨?_, nofun⟩
    obtain ⟨q, reply, _, hq, hfound, rfl, hc₁⟩ := carriedOut_fetch_ok hc
    rcases carriedOut_deposit_error ho hc₁ with rfl | ⟨q', reply', hq', rfl⟩
    · exact .fetch hq
    · rw [hdata operator] at hq'
      exact .make hq (Reply.saysAbsent_of_found hfound) operator hq'
  | created operator =>
    obtain ⟨q, reply, _, hq, hfound, rfl, hc₁⟩ := carriedOut_fetch_ok hc
    obtain ⟨q', reply', _, hq', hmade, rfl, hc₂⟩ := carriedOut_deposit_ok ho hc₁
    cases hc₂
    rw [hdata operator] at hq'
    obtain ⟨fields, hstored⟩ := Reply.exists_shows_of_made hmade
    have hobtains : r.Obtains own uid data [⟨q, reply⟩, ⟨q', reply'⟩] :=
      .made hq (Reply.saysAbsent_of_found hfound) operator hq' hstored
    exact ⟨hobtains.sends, fun _ _ => hobtains⟩
  | unadopted operator fault =>
    refine ⟨?_, nofun⟩
    obtain ⟨q, reply, _, hq, hfound, rfl, hc₁⟩ := carriedOut_fetch_ok hc
    obtain ⟨q', reply', _, hq', hmade, rfl, hc₂⟩ := carriedOut_deposit_ok ho hc₁
    rw [hdata operator] at hq'
    have habsent := Reply.saysAbsent_of_found hfound
    rcases carriedOut_fetch_error hc₂ with rfl | ⟨q'', reply'', hq'', rfl⟩
    · exact .make hq habsent operator hq'
    · exact .fetchAgain hq habsent operator hq' (Reply.saysTaken_of_made hmade) hq''
  | vanished operator =>
    refine ⟨?_, nofun⟩
    obtain ⟨q, reply, _, hq, hfound, rfl, hc₁⟩ := carriedOut_fetch_ok hc
    obtain ⟨q', reply', _, hq', hmade, rfl, hc₂⟩ := carriedOut_deposit_ok ho hc₁
    obtain ⟨q'', reply'', _, hq'', -, rfl, hc₃⟩ := carriedOut_fetch_ok hc₂
    cases hc₃
    rw [hdata operator] at hq'
    exact .fetchAgain hq (Reply.saysAbsent_of_found hfound) operator hq'
      (Reply.saysTaken_of_made hmade) hq''
  | adopted operator fields =>
    obtain ⟨q, reply, _, hq, hfound, rfl, hc₁⟩ := carriedOut_fetch_ok hc
    obtain ⟨q', reply', _, hq', hmade, rfl, hc₂⟩ := carriedOut_deposit_ok ho hc₁
    obtain ⟨q'', reply'', _, hq'', hfound', rfl, hc₃⟩ := carriedOut_fetch_ok hc₂
    cases hc₃
    rw [hdata operator] at hq'
    have habsent := Reply.saysAbsent_of_found hfound
    have htaken := Reply.saysTaken_of_made hmade
    refine ⟨.fetchAgain hq habsent operator hq' htaken hq'', ?_⟩
    rintro ⟨c, o⟩ hx
    obtain ⟨hholds, hwhole⟩ := extract_eq_ok.mp (taken_eq_ok.mp hx).1
    exact .adopted hq habsent operator hq' htaken hq'' (Reply.shows_of_found hfound') hholds hwhole

end CredentialReference

/-! ### What is made -/

section Made

variable {q : Request} {space name own uid : String} {data : List (String × List UInt8)}
  {r : CredentialReference} {es : List RequestExchange}

theorem Request.Fetches.made?_eq (h : q.Fetches space name) : q.made? = none := by
  rw [made?, h.method]
  rfl

theorem Request.Reports.made?_eq (h : q.Reports space name) : q.made? = none := by
  rw [made?, h.method]
  rfl

theorem Request.Makes.made?_eq (h : q.Makes space (Secret.sent own uid space name data)) :
    q.made? = some (.str name) := by
  rw [made?, if_pos h.method, h.body]
  rfl

/-- For one credential at most one secret is made: that of the reference, if it is the
operator's. -/
theorem CredentialReference.Sends.made (h : r.Sends own uid data es) :
    (es.filterMap fun e => e.1.made?) = [] ∨
      r.ownership = .operator ∧ (es.filterMap fun e => e.1.made?) = [.str r.name] := by
  cases h with
  | nothing => exact .inl rfl
  | fetch fetches =>
    left
    simp [fetches.made?_eq]
  | make fetches absent operator makes =>
    right
    simp [fetches.made?_eq, makes.made?_eq, operator]
  | fetchAgain fetches absent operator makes taken again =>
    right
    simp [fetches.made?_eq, makes.made?_eq, again.made?_eq, operator]

end Made

/-! ## The requests of a pass -/

namespace Manifest

variable {m : Manifest} {r : Registry} {fresh : Material} {intervals : Intervals}
  {now : Timestamp} {owner : OwnerReference} {es : List RequestExchange}

/-- The requests that a pass may send for both credentials: those for the password, and behind a
password that was obtained those for the keys. -/
inductive SecretRequests (m : Manifest) (r : Registry) (fresh : Material) :
    List RequestExchange → Prop where
  | nothing : SecretRequests m r fresh []
  | password {p : Plan} {own uid : String} {es : List RequestExchange}
      (plan : m.toApplication.plan r = .ok p) (name : m.metadata.name = some own)
      (id : m.metadata.uid = some uid)
      (sends : p.database.credentials.Sends own uid [("password", fresh.password)] es) :
      SecretRequests m r fresh es
  | keys {p : Plan} {own uid : String} {es es' : List RequestExchange}
      (plan : m.toApplication.plan r = .ok p) (name : m.metadata.name = some own)
      (id : m.metadata.uid = some uid)
      (obtains : p.database.credentials.Obtains own uid [("password", fresh.password)] es)
      (sends : p.objectStorage.credentials.Sends own uid
        [("accesskey", fresh.accessKey), ("secretkey", fresh.secretKey)] es') :
      SecretRequests m r fresh (es ++ es')

/-- The requests by which a pass may report: its status, or nothing. -/
inductive StatusRequests (m : Manifest) : List RequestExchange → Prop where
  | nothing : StatusRequests m []
  | status {q : Request} {reply : Reply} {own home : String}
      (space : m.metadata.space = some home) (name : m.metadata.name = some own)
      (reports : q.Reports home own) : StatusRequests m [⟨q, reply⟩]

theorem SecretRequests.length_le (h : m.SecretRequests r fresh es) : es.length ≤ 6 := by
  cases h with
  | nothing => exact Nat.zero_le 6
  | password plan name id sends => exact Nat.le_trans sends.length_le (by decide)
  | keys plan name id obtains sends =>
    rw [List.length_append]
    exact Nat.add_le_add obtains.sends.length_le sends.length_le

/-- No secret is made twice.  If the operator answers for both, their names are of two kinds. -/
theorem SecretRequests.nodup_made (h : m.SecretRequests r fresh es) :
    (es.filterMap fun e => e.1.made?).Nodup := by
  have hone {ref : CredentialReference} {own uid : String} {data : List (String × List UInt8)}
      {es : List RequestExchange} (h : ref.Sends own uid data es) :
      (es.filterMap fun e => e.1.made?).Nodup := by
    rcases h.made with hmade | ⟨-, hmade⟩
    · rw [hmade]
      exact List.nodup_nil
    · rw [hmade]
      exact List.pairwise_singleton _ _
  cases h with
  | nothing => exact List.nodup_nil
  | password plan name id sends => exact hone sends
  | keys plan name id obtains sends =>
    rw [List.filterMap_append]
    refine List.nodup_append.mpr ⟨hone obtains.sends, hone sends, ?_⟩
    intro made hmade made' hmade'
    rcases obtains.sends.made with hnone | ⟨operator, hpassword⟩
    · rw [hnone] at hmade
      cases hmade
    · rcases sends.made with hnone | ⟨operator', hkeys⟩
      · rw [hnone] at hmade'
        cases hmade'
      · rw [hpassword] at hmade
        rw [hkeys] at hmade'
        obtain rfl := List.mem_singleton.mp hmade
        obtain rfl := List.mem_singleton.mp hmade'
        obtain ⟨custom, hc⟩ := Application.plan_database plan
        obtain ⟨custom', hc'⟩ := Application.plan_storage plan
        rw [hc] at operator ⊢
        rw [hc'] at operator' ⊢
        rw [CredentialReference.database_of_operator operator,
          CredentialReference.storage_of_operator operator']
        intro heq
        exact Names.databaseSecret_ne_storageSecret _ _ (Json.str.inj heq)

/-- A resolution sends the requests for its credentials. -/
theorem secretRequests_of_resolve {qs : List StoreExchange}
    {x : Except ResolutionError Resolution} (ho : m.ownerReference? = some owner)
    (h : (m.toApplication.resolve r fresh).Gives qs x)
    (hc : CarriedOut (StoreCall.perform owner) qs es) : m.SecretRequests r fresh es := by
  obtain ⟨own, uid, hname, hid, howner⟩ := exists_of_ownerReference? ho
  cases hp : m.toApplication.plan r with
  | error e =>
    obtain ⟨rfl, -⟩ := (Application.resolve_gives_of_mistake hp).mp h
    cases hc
    exact .nothing
  | ok p =>
    have hpassword : p.database.credentials.ownership = .operator →
        (p.database.credentials.toFields
          (fresh.credential p.database.credentials.kind)).entries =
            [("password", fresh.password)] := by
      obtain ⟨custom, hcred⟩ := Application.plan_database hp
      rw [hcred]
      intro operator
      rw [CredentialReference.database_of_operator operator]
      exact CredentialReference.entries_toFields_database p.space p.name fresh
    have hkeys : p.objectStorage.credentials.ownership = .operator →
        (p.objectStorage.credentials.toFields
          (fresh.credential p.objectStorage.credentials.kind)).entries =
            [("accesskey", fresh.accessKey), ("secretkey", fresh.secretKey)] := by
      obtain ⟨custom, hcred⟩ := Application.plan_storage hp
      rw [hcred]
      intro operator
      rw [CredentialReference.storage_of_operator operator]
      exact CredentialReference.entries_toFields_storage p.space p.name fresh
    rcases (Application.resolve_gives_of_plan hp).mp h with
      ⟨e, hcourse, -⟩ | ⟨qs₁, qs₂, password, rfl, h₁, h₂⟩
    · exact .password hp hname hid
        (CredentialReference.sends_of_course howner hpassword hcourse hc).1
    · obtain ⟨es₁, es₂, rfl, hc₁, hc₂⟩ := hc.exists_append
      have hobtains :=
        (CredentialReference.sends_of_course howner hpassword h₁ hc₁).2 password rfl
      rcases h₂ with ⟨e, hcourse, -⟩ | ⟨keys, hcourse, -⟩
      · exact .keys hp hname hid hobtains
          (CredentialReference.sends_of_course howner hkeys hcourse hc₂).1
      · exact .keys hp hname hid hobtains
          (CredentialReference.sends_of_course howner hkeys hcourse hc₂).1

/-- A verdict is recorded by nothing if the status tells it already.  Otherwise the status that it
calls for is sent if the request can be made, and the reply decides. -/
theorem gives_record {space name : String} {v : Verdict} {z : Except ReconcileError Unit}
    (hname : m.metadata.name = some name) : (m.record space now v).Gives es z ↔
      (v.nextStatus m.toApplication.status now = none ∧ es = [] ∧ z = .ok ()) ∨
      ∃ status, v.nextStatus m.toApplication.status now = some status ∧
        ((∃ fault, statusRequest space name status = .error fault ∧ es = [] ∧
            z = .error (.status fault)) ∨
          ∃ q reply, statusRequest space name status = .ok q ∧ es = [⟨q, reply⟩] ∧
            z = ((reply.read shape).map fun _ => ()).mapError .status) := by
  rw [record, hname, Option.getD_some]
  cases hnext : v.nextStatus m.toApplication.status now with
  | none => simp [gives_done]
  | some status =>
    simp only [gives_tell, gives_bind, gives_send, reduceCtorEq, false_and, false_or,
      Option.some.injEq, exists_eq_left']
    constructor
    · rintro ⟨es₁, es₂, a, rfl, hsend, hdone⟩
      obtain ⟨rfl, rfl⟩ := gives_done.mp hdone
      rw [List.append_nil]
      rcases hsend with ⟨fault, hreq, rfl, rfl⟩ | ⟨q, reply, hreq, rfl, rfl⟩
      · exact .inl ⟨fault, hreq, rfl, rfl⟩
      · exact .inr ⟨q, reply, hreq, rfl, rfl⟩
    · rintro (⟨fault, hreq, rfl, rfl⟩ | ⟨q, reply, hreq, rfl, rfl⟩)
      · exact ⟨[], [], _, rfl, .inl ⟨fault, hreq, rfl, rfl⟩, .refl _⟩
      · exact ⟨[_], [], _, rfl, .inr ⟨q, reply, hreq, rfl, rfl⟩, .refl _⟩

/-- An outcome with a verdict is reported by recording the verdict. -/
theorem gives_report {space name : String} {x : Except ResolutionError Resolution} {v : Verdict}
    {events : List Event} {y : Except ReconcileError UInt64}
    (h : judge name space x = .ok (v, events)) : (m.report intervals space name now x).Gives es y ↔
      ∃ z, (m.record space now v).Gives es z ∧ y = z.map fun _ => v.requeue intervals := by
  simp only [report, h, gives_tellAll]
  constructor
  · intro h
    rcases gives_thenTry.mp h with ⟨e, he, rfl⟩ | ⟨es₁, es₂, a, rfl, ha, hdone⟩
    · exact ⟨_, he, rfl⟩
    · obtain ⟨rfl, rfl⟩ := gives_done.mp hdone
      rw [List.append_nil]
      exact ⟨_, ha, rfl⟩
  · rintro ⟨z, hz, rfl⟩
    cases z with
    | error e => exact gives_thenTry.mpr (.inl ⟨e, hz, rfl⟩)
    | ok a => exact gives_thenTry.mpr (.inr ⟨es, [], a, (List.append_nil es).symm, hz, .refl _⟩)

/-- Of a verdict one status at most is sent, that of its application. -/
theorem statusRequests_of_record {space name : String} {v : Verdict}
    {z : Except ReconcileError Unit} (hs : m.metadata.space = some space)
    (hname : m.metadata.name = some name) (h : (m.record space now v).Gives es z) :
    m.StatusRequests es := by
  rcases (gives_record hname).mp h with
    ⟨-, rfl, -⟩ | ⟨status, -, ⟨fault, -, rfl, -⟩ | ⟨q, reply, hq, rfl, -⟩⟩
  · exact .nothing
  · exact .nothing
  · exact .status hs hname (Request.reports_of_statusRequest hq)

/-- A report sends what its verdict calls for. -/
theorem statusRequests_of_report {space name : String} {x : Except ResolutionError Resolution}
    {y : Except ReconcileError UInt64} (hs : m.metadata.space = some space)
    (hname : m.metadata.name = some name) (h : (m.report intervals space name now x).Gives es y) :
    m.StatusRequests es := by
  cases hj : judge name space x with
  | error e =>
    rw [report, hj] at h
    obtain ⟨rfl, -⟩ := gives_done.mp h
    exact .nothing
  | ok verdict =>
    obtain ⟨z, hz, -⟩ := (gives_report hj).mp h
    exact statusRequests_of_record hs hname hz

/-- A pass sends the requests for its credentials, and behind them it reports. -/
theorem exists_requests_of_reconcile {y : Except ReconcileError UInt64}
    (h : (m.reconcile r intervals fresh now).Gives es y) : ∃ secrets status,
      es = secrets ++ status ∧ m.SecretRequests r fresh secrets ∧ m.StatusRequests status := by
  cases hs : m.metadata.space with
  | none =>
    rw [reconcile, hs] at h
    obtain ⟨rfl, -⟩ := gives_done.mp h
    exact ⟨[], [], rfl, .nothing, .nothing⟩
  | some space =>
    cases ho : m.ownerReference? with
    | none =>
      rw [reconcile, hs, ho] at h
      obtain ⟨rfl, -⟩ := gives_done.mp h
      exact ⟨[], [], rfl, .nothing, .nothing⟩
    | some owner =>
      rw [reconcile_eq_bind_report hs ho] at h
      obtain ⟨es₁, es₂, x, rfl, hresolve, hreport⟩ := gives_bind.mp h
      obtain ⟨qs, hgives, hc⟩ := gives_expand.mp hresolve
      exact ⟨es₁, es₂, rfl, secretRequests_of_resolve ho hgives hc,
        statusRequests_of_report hs (name_of_ownerReference? ho) hreport⟩

/-- All that a pass sends, whatever it is answered: the requests for its credentials, and behind
them one status of the application at most.  No secret is made twice, and there are seven requests
at most. -/
theorem reconcile_keeps_to_its_requests {y : Except ReconcileError UInt64}
    (h : (m.reconcile r intervals fresh now).Gives es y) :
    ∃ secrets status, es = secrets ++ status ∧ m.SecretRequests r fresh secrets ∧
      m.StatusRequests status ∧ (es.filterMap fun e => e.1.made?).Nodup ∧ es.length ≤ 7 := by
  obtain ⟨secrets, status, rfl, hsecrets, hstatus⟩ := exists_requests_of_reconcile h
  refine ⟨secrets, status, rfl, hsecrets, hstatus, ?_, ?_⟩
  · have hmade : (status.filterMap fun e => e.1.made?) = [] := by
      cases hstatus with
      | nothing => rfl
      | status space name reports => simp [reports.made?_eq]
    rw [List.filterMap_append, hmade, List.append_nil]
    exact hsecrets.nodup_made
  · have hlength : status.length ≤ 1 := by
      cases hstatus with
      | nothing | status => simp
    rw [List.length_append]
    exact Nat.add_le_add hsecrets.length_le hlength

/-! ## A pass that finds a secret taken -/

/-- The plain application keeps its password in a secret of the operator. -/
def plainPassword : CredentialReference := .database "pipelines" "sample" none

/-- The request for that password. -/
def passwordRequest : Request :=
  ⟨.get, ⟨"/api/v1/namespaces/pipelines/secrets/ds-pipeline-db-sample", ""⟩, none⟩

/-- The request that stores one. -/
def passwordDeposit : Request :=
  ⟨.post, ⟨"/api/v1/namespaces/pipelines/secrets", ""⟩, some ⟨"application/json",
    Secret.sent "sample" "1" "pipelines" "ds-pipeline-db-sample"
      [("password", List.replicate 12 97)]⟩⟩

/-- The secret is not there, then it is there, and then the server is not. -/
def takenCalls : List StoreExchange :=
  [⟨plainPassword.fetch, .ok none⟩,
    ⟨plainPassword.deposit (.repeating 0), .ok .alreadyExists⟩,
    ⟨plainPassword.fetch, .error (.service "connection refused")⟩]

/-- What is sent and answered meanwhile. -/
def takenRequests : List RequestExchange :=
  [⟨passwordRequest, Server.error 404 "NotFound" "secrets not found"⟩,
    ⟨passwordDeposit, Server.error 409 "AlreadyExists" "secrets already exists"⟩,
    ⟨passwordRequest, .unreachable "connection refused"⟩]

theorem takenCalls_carriedOut : CarriedOut
    (StoreCall.perform ⟨apiVersion, none, some true, kind, "sample", "1"⟩) takenCalls
      takenRequests := by
  have hfound : Secret.found (Server.error 404 "NotFound" "secrets not found") = .ok none := by
    rw [Secret.found, Server.read_error "NotFound" _ (by decide)]
    rfl
  have hmade : Secret.made (Server.error 409 "AlreadyExists" "secrets already exists") =
      .ok .alreadyExists := by
    rw [Secret.made, Server.read_error "AlreadyExists" _ (by decide)]
    rfl
  have hfetch (reply : Reply) (a : Except ClusterFault (Option SecretFields))
      (h : Secret.found reply = a) :
      (StoreCall.perform ⟨apiVersion, none, some true, kind, "sample", "1"⟩
        plainPassword.fetch).Gives [⟨passwordRequest, reply⟩] a :=
    gives_send.mpr (.inr ⟨passwordRequest, reply, rfl, rfl, h.symm⟩)
  have hdeposit : (StoreCall.perform ⟨apiVersion, none, some true, kind, "sample", "1"⟩
      (plainPassword.deposit (.repeating 0))).Gives
        [⟨passwordDeposit, Server.error 409 "AlreadyExists" "secrets already exists"⟩]
          (.ok .alreadyExists) :=
    gives_send.mpr (.inr ⟨passwordDeposit, _, rfl, rfl, hmade.symm⟩)
  have hagain := hfetch (.unreachable "connection refused") _ rfl
  exact .cons (hfetch _ _ hfound) (.cons hdeposit (.cons hagain .nil))

theorem reconcile_keeps_to_its_requests_taken :
    (Cluster.plainManifest.reconcile ⟨∅⟩ ⟨30, 60⟩ (.repeating 0)
      ⟨⟨2024, 2, 29⟩, ⟨23, 59, 60, 0⟩, by decide, by decide⟩).Gives takenRequests
        (.error (.store (.service "connection refused"))) ∧
    ∃ secrets status, takenRequests = secrets ++ status ∧
      Cluster.plainManifest.SecretRequests ⟨∅⟩ (.repeating 0) secrets ∧
      Cluster.plainManifest.StatusRequests status ∧
      (takenRequests.filterMap fun e => e.1.made?).Nodup ∧ takenRequests.length ≤ 7 := by
  obtain ⟨p, hp, hpassword⟩ : ∃ p, Cluster.plainManifest.toApplication.plan ⟨∅⟩ = .ok p ∧
      p.database.credentials = plainPassword := ⟨_, rfl, rfl⟩
  have hresolve : (Cluster.plainManifest.toApplication.resolve ⟨∅⟩
      (.repeating 0)).Gives takenCalls
        (.error (.store (.service "connection refused"))) := by
    refine (Application.resolve_gives_of_plan hp).mpr (.inl ⟨_, ?_, rfl⟩)
    rw [hpassword]
    exact .unadopted rfl (.service "connection refused")
  have hgives : (Cluster.plainManifest.reconcile ⟨∅⟩ ⟨30, 60⟩ (.repeating 0)
      ⟨⟨2024, 2, 29⟩, ⟨23, 59, 60, 0⟩, by decide, by decide⟩).Gives takenRequests
        (.error (.store (.service "connection refused"))) := by
    rw [reconcile_eq_bind_report rfl rfl]
    exact gives_bind.mpr ⟨takenRequests, [], _, (List.append_nil _).symm,
      gives_expand.mpr ⟨takenCalls, hresolve, takenCalls_carriedOut⟩, report_gives_of_fault rfl⟩
  exact ⟨hgives, reconcile_keeps_to_its_requests hgives⟩

end Manifest

end PipelinesOperator
