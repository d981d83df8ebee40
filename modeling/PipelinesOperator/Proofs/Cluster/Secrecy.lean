import PipelinesOperator.Proofs.Cluster.Server
import PipelinesOperator.Proofs.Credential.Outline

/-!
# Clusters that differ in the contents of secrets

Two clusters may hold the same secrets with other contents.  Asked for a secret they show one of
the same outline, asked to make one they both do or both have it already, and of anything else they
know nothing that differs.  That remains so if replies are lost on the way, or if somebody else
answers in the place of the cluster, as long as the same happens to both.

## Main definitions

* `Request.likeness`: requests and replies that differ in the contents of secrets only
* `Request.masked`: a request without the contents of the secret that it makes
* `Server.Alike`: servers that differ in the contents of secrets only
* `Server.scripted`: a server whose replies may be replaced, according to a script

## Main results

* `perform_inStep`: like calls of the secret store are performed in step
* `Server.scripted_twins`: servers that differ in the contents of secrets only answer alike
-/

namespace PipelinesOperator

open Dialogue

/-! ## Requests and replies -/

/-- Requests that are the same, or make secrets of one outline for one owner. -/
inductive Request.Like : Request → Request → Prop where
  | same (q : Request) : Like q q
  | make {own uid space name : String} {fields fields' : SecretFields} (target : Target)
      (h : fields.outline = fields'.outline) :
      Like
        ⟨.post, target, some ⟨"application/json", Secret.shape.write (.owned
          ⟨Manifest.apiVersion, none, some true, Manifest.kind, own, uid⟩ space name fields)⟩⟩
        ⟨.post, target, some ⟨"application/json", Secret.shape.write (.owned
          ⟨Manifest.apiVersion, none, some true, Manifest.kind, own, uid⟩ space name fields')⟩⟩

/-- Secrets of one outline. -/
def Secret.Like (s s' : Secret) : Prop := s.fields.outline = s'.fields.outline

theorem Secret.Like.refl (s : Secret) : s.Like s := rfl

/-- Replies that are read as secrets of one outline, or as the same error; what is said to a
request for anything but a secret is the same. -/
def Reply.Like (q : Request) (a a' : Reply) : Prop :=
  if q.method = .patch then a = a'
  else Except.Like Secret.Like (a.read Secret.shape) (a'.read Secret.shape)

/-- Requests and replies that differ in the contents of secrets only. -/
def Request.likeness : Likeness Request fun _ => Reply where
  question := Request.Like
  answer {q _} := Reply.Like q

namespace Reply

variable {q : Request} {a a' : Reply}

theorem Like.refl (q : Request) (a : Reply) : Reply.Like q a a := by
  rw [Like]
  split
  · rfl
  · exact Except.Like.refl Secret.Like.refl _

theorem like_iff_of_ne (h : q.method ≠ .patch) :
    Reply.Like q a a' ↔ Except.Like Secret.Like (a.read Secret.shape) (a'.read Secret.shape) := by
  rw [Like, if_neg h]

theorem like_iff_of_eq (h : q.method = .patch) : Reply.Like q a a' ↔ a = a' := by
  rw [Like, if_pos h]

/-- What is found behind like replies.  Only a refusal by the server may say that there is no
secret. -/
theorem found_like (h : Except.Like Secret.Like (a.read Secret.shape) (a'.read Secret.shape)) :
    Except.Like (fun found found' : Option SecretFields =>
      found.map SecretFields.outline = found'.map SecretFields.outline)
      (Secret.found a) (Secret.found a') := by
  rw [Secret.found, Secret.found]
  generalize a.read Secret.shape = x at h
  generalize a'.read Secret.shape = x' at h
  cases h with
  | ok h => exact .ok (congrArg some h)
  | error e =>
    cases e with
    | api e =>
      by_cases he : e.isNotFound
      · simp only [he, if_true]
        exact .ok rfl
      · simp only [he]
        exact .error _
    | service | undecodable | badPath | emptyName => exact .error _

/-- What like replies say of a secret that was to be made. -/
theorem made_eq (h : Except.Like Secret.Like (a.read Secret.shape) (a'.read Secret.shape)) :
    Secret.made a = Secret.made a' := by
  rw [Secret.made, Secret.made]
  generalize a.read Secret.shape = x at h
  generalize a'.read Secret.shape = x' at h
  cases h with
  | ok h => rfl
  | error e => rfl

end Reply

/-- Like requests for secrets are sent in step, if what comes back is taken alike. -/
theorem Request.send_inStep {α β : Type} {related : Except ClusterFault α → Except ClusterFault β →
    Prop} {q q' : Request} (hq : q.Like q') (hmethod : q.method ≠ .patch)
    {next : Reply → Except ClusterFault α} {next' : Reply → Except ClusterFault β}
    (hnext : ∀ a a', Except.Like Secret.Like (a.read Secret.shape) (a'.read Secret.shape) →
      related (next a) (next' a')) :
    InStep Request.likeness related (Request.send (.ok q) next) (Request.send (.ok q') next') := by
  refine .ask hq fun a a' ha => .done ?_
  exact hnext a a' ((Reply.like_iff_of_ne (q := q) hmethod).mp ha)

/-- Like calls of the secret store are performed in step.  Only the body of a request bears a
secret; its target comes from the place alone. -/
theorem perform_inStep {own uid : String} (call call' : StoreCall) (h : call.Like call') :
    InStep Request.likeness (StoreCall.LikeAnswers call call')
      (call.perform ⟨Manifest.apiVersion, none, some true, Manifest.kind, own, uid⟩)
      (call'.perform ⟨Manifest.apiVersion, none, some true, Manifest.kind, own, uid⟩) := by
  cases call with
  | get space name =>
    cases call' with
    | create => exact h.elim
    | get space' name' =>
      obtain ⟨rfl, rfl⟩ := h
      rw [StoreCall.perform]
      cases hreq : Secret.getRequest space name with
      | error fault => exact .done (.error fault)
      | ok request =>
        have hmethod : request.method ≠ .patch := by
          rw [Cluster.getRequest_eq_ok hreq]
          decide
        exact Request.send_inStep (.same request) hmethod fun a a' ha => Reply.found_like ha
  | create space name fields =>
    cases call' with
    | get => exact h.elim
    | create space' name' fields' =>
      obtain ⟨rfl, rfl, houtline⟩ := h
      rw [StoreCall.perform, StoreCall.perform]
      cases ht : Target.ofText? (Secret.target space ++ "?").toList with
      | none =>
        simp only [Secret.createRequest, Request.of, ht, Request.send]
        exact .done rfl
      | some target =>
        simp only [Secret.createRequest, Request.of, ht]
        have hmethod : Method.post ≠ .patch := by decide
        exact Request.send_inStep (.make target houtline) hmethod fun a a' ha => Reply.made_eq ha

/-! ## Masked requests -/

/-- An object without the values of its members. -/
def Json.erased : Json → Json
  | .obj members => .obj (members.map fun m => (m.1, .null))
  | j => j

/-- A request without the values under `data` in what a POST sends. -/
def Request.masked (q : Request) : Request :=
  match q.method, q.body with
  | .post, some ⟨contentType, .obj members⟩ =>
    { q with body := some ⟨contentType, .obj (members.map fun m =>
      if m.1 = "data" then (m.1, m.2.erased) else m)⟩ }
  | _, _ => q

/-- Secrets of one outline have the same fields. -/
theorem SecretFields.erased_document {fields fields' : SecretFields}
    (h : fields.outline = fields'.outline) : fields.document.erased = fields'.document.erased := by
  have hkeys : fields.entries.map Prod.fst = fields'.entries.map Prod.fst := by
    have hentries := congrArg (fun t : Table Bool => t.entries.map Prod.fst) h
    simpa [outline, Table.map, Function.comp_def] using hentries
  have herased (fields : SecretFields) : fields.document.erased =
      .obj ((fields.entries.map Prod.fst).map fun key => (key, .null)) := by
    simp [document, Json.erased, Function.comp_def]
  rw [herased, herased, hkeys]

/-- Like requests are the same but for the values under `data` in what a POST sends. -/
theorem Request.Like.masked_eq {q q' : Request} (h : q.Like q') : q.masked = q'.masked := by
  cases h with
  | same => rfl
  | make target houtline =>
    rw [Secret.write_owned, Secret.write_owned]
    simp [masked, SecretFields.erased_document houtline]

/-! ## Servers that answer alike -/

/-- Servers that hold the same, but for the contents of the fields of secrets; even there the same
fields are empty. -/
structure Server.Alike (s s' : Server) : Prop where
  secrets : ∀ place, (s.secrets.lookup place).map (fun data => (data.getD ∅).outline) =
    (s'.secrets.lookup place).map (fun data => (data.getD ∅).outline)
  manifests : s.manifests = s'.manifests
  statuses : s.statuses = s'.statuses

namespace Server

variable {s s' : Server} {space name : String}

theorem Alike.refl (s : Server) : s.Alike s := ⟨fun _ => rfl, rfl, rfl⟩

/-- A secret that is set to data of one outline. -/
theorem Alike.putSecret (h : s.Alike s') (space name : String) {data data' : Option SecretFields}
    (hdata : (data.getD ∅).outline = (data'.getD ∅).outline) :
    (s.putSecret space name data).Alike (s'.putSecret space name data') where
  secrets place := by
    rw [lookup_putSecret, lookup_putSecret]
    by_cases hplace : place = (space, name)
    · rw [if_pos hplace, if_pos hplace]
      exact congrArg some hdata
    · rw [if_neg hplace, if_neg hplace]
      exact h.secrets place
  manifests := h.manifests
  statuses := h.statuses

/-- A secret is shown alike by servers that are alike. -/
theorem getSecret_like (h : s.Alike s') (space name : String) :
    Except.Like Secret.Like ((s.getSecret space name).read Secret.shape)
      ((s'.getSecret space name).read Secret.shape) := by
  have hplace := h.secrets (space, name)
  rw [getSecret, getSecret]
  cases hl : s.secrets.lookup (space, name) with
  | none =>
    rw [hl] at hplace
    rw [Option.map_eq_none_iff.mp hplace.symm, read_error "NotFound" _ (by decide)]
    exact .error _
  | some data =>
    rw [hl] at hplace
    obtain ⟨data', hl', hdata⟩ := Option.map_eq_some_iff.mp hplace.symm
    obtain ⟨secret, hread, hfields⟩ := read_shown space name data
    obtain ⟨secret', hread', hfields'⟩ := read_shown space name data'
    rw [hl']
    simp only [hread, hread']
    refine .ok ?_
    rw [Secret.Like, hfields, hfields']
    exact hdata.symm

/-- A secret is made alike by servers that are alike, if what is sent is read alike and is answered
alike. -/
theorem createSecret_like (h : s.Alike s') (space : String) {body body' : Json}
    (hbody : Except.Like (fun x x' : Secret => x.metadata.name = x'.metadata.name ∧ x.Like x')
      (Secret.shape.ofJson body) (Secret.shape.ofJson body'))
    (hreply : Except.Like Secret.Like ((object 201 body).read Secret.shape)
      ((object 201 body').read Secret.shape)) :
    Except.Like Secret.Like ((s.createSecret space body).1.read Secret.shape)
      ((s'.createSecret space body').1.read Secret.shape) ∧
      (s.createSecret space body).2.Alike (s'.createSecret space body').2 := by
  rw [createSecret, createSecret]
  generalize Secret.shape.ofJson body = x at hbody
  generalize Secret.shape.ofJson body' = x' at hbody
  cases hbody with
  | error f =>
    refine ⟨?_, h⟩
    rw [read_error "BadRequest" _ (by decide)]
    exact .error _
  | @ok secret secret' hsecret =>
    obtain ⟨hname, hdata⟩ := hsecret
    have hplace := h.secrets (space, secret.metadata.name.getD "")
    simp only [← hname]
    cases hl : s.secrets.lookup (space, secret.metadata.name.getD "") with
    | none =>
      rw [hl] at hplace
      simp only [Option.map_eq_none_iff.mp hplace.symm]
      exact ⟨hreply, h.putSecret space _ hdata⟩
    | some data =>
      rw [hl] at hplace
      obtain ⟨data', hl', -⟩ := Option.map_eq_some_iff.mp hplace.symm
      rw [hl']
      refine ⟨?_, h⟩
      rw [read_error "AlreadyExists" _ (by decide)]
      exact .error _

/-- Servers that are alike have the same manifests and statuses, and so merge a status alike. -/
theorem patchStatus_like (h : s.Alike s') (space name : String) (patch : Json) :
    (s.patchStatus space name patch).1 = (s'.patchStatus space name patch).1 ∧
      (s.patchStatus space name patch).2.Alike (s'.patchStatus space name patch).2 := by
  have hstatus : s.status? space name = s'.status? space name := by
    rw [status?, status?, h.statuses]
  rw [patchStatus, patchStatus, ← h.manifests, ← hstatus, ← h.statuses]
  cases s.manifests.lookup (space, name) with
  | none => exact ⟨rfl, h⟩
  | some manifest =>
    refine ⟨rfl, ?_⟩
    exact { secrets := h.secrets, manifests := rfl, statuses := rfl }

/-- Where a POST goes does not depend on what it carries: to the secrets of a namespace, or
nowhere. -/
theorem answer_post (target : Target) :
    (∃ space, ∀ (s : Server) (body : Body),
      s.answer ⟨.post, target, some body⟩ = s.createSecret space body.content) ∨
    ∀ (s : Server) (body : Body), s.answer ⟨.post, target, some body⟩ = (unknown, s) := by
  by_cases hknown : ∃ space, target.segments = ["", "api", "v1", "namespaces", space, "secrets"]
  · obtain ⟨space, hspace⟩ := hknown
    refine .inl ⟨space, fun s body => ?_⟩
    rw [answer]
    simp only [hspace]
    rfl
  · refine .inr fun s body => ?_
    rw [answer]
    split
    · rename_i hmethod _
      cases hmethod
    · rename_i space _ hspace
      exact absurd ⟨space, hspace⟩ hknown
    · rename_i hmethod _
      cases hmethod
    · rfl

/-- Servers that are alike answer like requests alike, and stay alike. -/
theorem answer_like {q q' : Request} (hq : q.Like q') (h : s.Alike s') :
    Reply.Like q (s.answer q).1 (s'.answer q').1 ∧ (s.answer q).2.Alike (s'.answer q').2 := by
  cases hq with
  | same =>
    rw [answer, answer]
    split
    · rename_i hmethod _
      rw [Reply.like_iff_of_ne (by rw [hmethod]; decide)]
      exact ⟨getSecret_like h _ _, h⟩
    · rename_i hmethod _
      rw [Reply.like_iff_of_ne (by rw [hmethod]; decide)]
      exact createSecret_like h _ (.refl (fun x => ⟨rfl, .refl x⟩) _) (.refl Secret.Like.refl _)
    · rename_i hmethod _
      split
      · rw [Reply.like_iff_of_eq hmethod]
        exact patchStatus_like h _ _ _
      · exact ⟨.refl _ _, h⟩
    · exact ⟨.refl _ _, h⟩
  | @make own uid space name fields fields' target houtline =>
    rcases answer_post target with ⟨space, hpost⟩ | hpost
    · have hmethod : Method.post ≠ .patch := by decide
      rw [hpost, hpost, Reply.like_iff_of_ne hmethod]
      refine createSecret_like h space ?_ ?_
      · rw [Secret.ofJson_write_owned, Secret.ofJson_write_owned]
        exact .ok ⟨rfl, houtline⟩
      · rw [read_owned, read_owned]
        exact .ok houtline
    · rw [hpost, hpost]
      exact ⟨.refl _ _, h⟩

/-! ## Replies out of a script -/

/-- What comes back in the place of an answer, and whether the request was handled all the same. -/
structure Mishap where
  reply : Reply
  handled : Bool

/-- A server with a script that says, request by request, which of its answers is replaced. -/
def scripted (q : Request) (s : List (Option Mishap) × Server) :
    Reply × (List (Option Mishap) × Server) :=
  let answered := s.2.answer q
  match s.1.head?.join with
  | none => (answered.1, s.1.tail, answered.2)
  | some mishap => (mishap.reply, s.1.tail, if mishap.handled then answered.2 else s.2)

/-- Servers that are alike, under one script, answer like requests alike and stay alike. -/
theorem scripted_twins : Twins Request.likeness scripted scripted
    fun s s' => s.1 = s'.1 ∧ s.2.Alike s'.2 := by
  rintro q q' ⟨script, s⟩ ⟨_, s'⟩ hq ⟨rfl, hs⟩
  obtain ⟨hreply, halike⟩ := answer_like hq hs
  unfold scripted
  cases script.head?.join with
  | none => exact ⟨hreply, rfl, halike⟩
  | some mishap =>
    obtain ⟨reply, handled⟩ := mishap
    cases handled with
    | true => exact ⟨Reply.Like.refl q reply, rfl, halike⟩
    | false => exact ⟨Reply.Like.refl q reply, rfl, hs⟩

end Server

end PipelinesOperator
