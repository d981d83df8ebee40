import PipelinesOperator.Proofs.Application.Manifest
import PipelinesOperator.Proofs.Credential.Vault
import PipelinesOperator.Proofs.Resolution.Settle

/-!
# Clusters that answer without failures

A cluster answers requests from a state of its own.  It is faithful to an application if it does
what it is asked for the sake of that application, and nothing else: it shows a secret or says that
there is none, makes a secret that is not there, and merges a status into the object that the
application is kept as.  To the secret store of the operator such a cluster is a truthful vault.

## Main definitions

* `Cluster σ`: one who answers requests, with what is seen of its state
* `Cluster.Faithful`: a cluster that answers without failures
* `Cluster.vault`: a cluster as the store of the secrets of one owner

## Main results

* `Faithful.truthful`: a faithful cluster is a truthful vault
-/

namespace PipelinesOperator

open Dialogue

/-- One who answers requests from a state.  A state shows the data of its secrets by namespace and
name, and the members of the object that an application is kept as. -/
structure Cluster (σ : Type) where
  answer : Request → σ → Reply × σ
  secret? : σ → String → String → Option SecretFields
  object : σ → List (String × Json)
  /-- The objects that can be told in an answer. -/
  Tellable : List (String × Json) → Prop

namespace Cluster

variable {σ : Type} {c : Cluster σ} {r : Registry} {m : Manifest} {owner : OwnerReference}
  {space name : String}

/-- A cluster as the store of the secrets of one owner.  A call makes nothing for which no request
is sent but such as fetch something. -/
def vault (c : Cluster σ) (owner : OwnerReference) : Vault σ (List (String × Json)) where
  serve := through c.answer (StoreCall.perform owner)
  secret? := c.secret?
  rest := c.object
  Harmless call := ∀ s, ∀ q ∈ questions c.answer (call.perform owner) s, q.method = .get

/-- A cluster answers without failures what is asked of it for the sake of an application. -/
structure Faithful (c : Cluster σ) (r : Registry) (m : Manifest) : Prop where
  /-- Fetching changes nothing. -/
  get_same : ∀ space name request s, m.toApplication.Concerns r space name →
    Secret.getRequest space name = .ok request →
    (∀ space name, m.toApplication.Concerns r space name →
      c.secret? (c.answer request s).2 space name = c.secret? s space name) ∧
    c.object (c.answer request s).2 = c.object s
  /-- A secret that is there is shown. -/
  get_present : ∀ space name request s fields, m.toApplication.Concerns r space name →
    Secret.getRequest space name = .ok request → c.secret? s space name = some fields →
    ∃ secret, (c.answer request s).1.read Secret.shape = .ok secret ∧ secret.fields = fields
  /-- Of a secret that is not there the cluster says that it was not found. -/
  get_absent : ∀ space name request s, m.toApplication.Concerns r space name →
    Secret.getRequest space name = .ok request → c.secret? s space name = none →
    ∃ e, (c.answer request s).1.read Secret.shape = .error (.api e) ∧ e.reason = "NotFound"
  /-- A secret that is not there is made, and all others stay what they are. -/
  post_absent : ∀ owner space name fields request s, m.ownerReference? = some owner →
    m.toApplication.Concerns r space name →
    Secret.createRequest space (.owned owner space name fields) = .ok request →
    c.secret? s space name = none →
    (∃ secret, (c.answer request s).1.read Secret.shape = .ok secret) ∧
    c.secret? (c.answer request s).2 space name = some fields ∧
    (∀ space name fields, m.toApplication.Concerns r space name →
      c.secret? s space name = some fields →
      c.secret? (c.answer request s).2 space name = some fields) ∧
    c.object (c.answer request s).2 = c.object s
  /-- A status is merged into the object, which is sent back. -/
  patch : ∀ space name status request s, m.metadata.space = some space →
    m.metadata.name = some name → Manifest.statusRequest space name status = .ok request →
    c.Tellable (c.object s) →
    (∀ space name, m.toApplication.Concerns r space name →
      c.secret? (c.answer request s).2 space name = c.secret? s space name) ∧
    Json.obj (c.object (c.answer request s).2) =
      (Json.obj (c.object s)).mergePatch (.obj [("status", (Status.shape .hub).write status)]) ∧
    c.Tellable (c.object (c.answer request s).2) ∧
    ∀ m', Manifest.shape.ofJson (.obj (c.object (c.answer request s).2)) = .ok m' →
      ∃ m'', (c.answer request s).1.read Manifest.shape = .ok m''

/-! ## The requests of store calls -/

theorem getRequest_eq_ok {request : Request} (h : Secret.getRequest space name = .ok request) :
    request.method = .get := by
  rw [Secret.getRequest] at h
  split at h
  · cases h
  · rw [Request.of] at h
    split at h
    · cases h
      rfl
    · cases h

/-- Whether a secret can be asked for does not depend on what is in it. -/
theorem createRequest_eq_error {s : Secret} {fault : ClusterFault}
    (h : Secret.createRequest space s = .error fault) (s' : Secret) :
    Secret.createRequest space s' = .error fault := by
  rw [Secret.createRequest, Request.of] at h ⊢
  split at h
  · cases h
  · exact h

/-- A faithful cluster is a truthful vault. -/
theorem Faithful.truthful (h : c.Faithful r m) (ho : m.ownerReference? = some owner) :
    (c.vault owner).Truthful (m.toApplication.Concerns r) where
  look space name := by
    intro s q hq
    change q ∈ questions c.answer (Request.send (Secret.getRequest space name) Secret.found) s at hq
    cases hreq : Secret.getRequest space name with
    | error fault =>
      rw [hreq] at hq
      cases hq
    | ok request =>
      rw [hreq] at hq
      obtain rfl := List.mem_singleton.mp hq
      exact getRequest_eq_ok hreq
  get space name hc := by
    cases hreq : Secret.getRequest space name with
    | error fault =>
      refine .inl ⟨fault, fun s => ?_⟩
      simp only [vault, through, StoreCall.perform, Request.send, hreq, run_done]
    | ok request =>
      refine .inr fun s => ?_
      have hserve : (c.vault owner).serve (.get space name) s =
          (Secret.found (c.answer request s).1, (c.answer request s).2) := by
        simp only [vault, through, StoreCall.perform, Request.send, hreq, run_ask, run_done]
      rw [hserve]
      obtain ⟨hsecrets, hobject⟩ := h.get_same space name request s hc hreq
      refine ⟨?_, hsecrets, hobject⟩
      change _ = Except.ok (c.secret? s space name)
      cases hheld : c.secret? s space name with
      | some fields =>
        obtain ⟨secret, hread, rfl⟩ := h.get_present space name request s fields hc hreq hheld
        simp only [Secret.found, hread]
      | none =>
        obtain ⟨e, hread, he⟩ := h.get_absent space name request s hc hreq hheld
        simp only [Secret.found, hread, ApiError.isNotFound, he, decide_true, if_true]
  create space name hc := by
    cases hreq : Secret.createRequest space (.owned owner space name ∅) with
    | error fault =>
      refine .inl ⟨fault, fun fields => ⟨fun s q hq => ?_, fun s => ?_⟩⟩
      · simp only [StoreCall.perform, Request.send, createRequest_eq_error hreq] at hq
        cases hq
      · simp only [vault, through, StoreCall.perform, Request.send, createRequest_eq_error hreq,
          run_done]
    | ok request =>
      refine .inr fun fields s hs => ?_
      cases hreq' : Secret.createRequest space (.owned owner space name fields) with
      | error fault =>
        rw [createRequest_eq_error hreq'] at hreq
        cases hreq
      | ok request' =>
        have hserve : (c.vault owner).serve (.create space name fields) s =
            (Secret.made (c.answer request' s).1, (c.answer request' s).2) := by
          simp only [vault, through, StoreCall.perform, Request.send, hreq', run_ask, run_done]
        rw [hserve]
        obtain ⟨⟨secret, hread⟩, hstored, hkept, hobject⟩ :=
          h.post_absent owner space name fields request' s ho hc hreq' hs
        refine ⟨?_, hstored, hkept, hobject⟩
        simp only [Secret.made, hread]

end Cluster

end PipelinesOperator
