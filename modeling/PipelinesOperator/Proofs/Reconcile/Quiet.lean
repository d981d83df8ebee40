import PipelinesOperator.Proofs.Cluster.Server
import PipelinesOperator.Proofs.Race.Play
import PipelinesOperator.Proofs.Reconcile.Report

/-!
# Reconciling falls quiet

An application is visited again and again, each time as the cluster holds it by then.  The first
visit leaves its credentials settled, so that the second ends as all later ones do, but the second
may have to write a status that the first got wrong: the origins of credentials that were made are
part of what is hashed.  From then on the status tells what every visit finds, or cannot be
written at all, and the visits only look.

## Main definitions

* `Cluster.visit`, `Cluster.visits`: what comes of one visit, and of a sequence of them
* `Cluster.Ready`: the states behind the first visit
* `Cluster.Idle`: the states from which on all visits only look

## Main results

* `exists_ready_visit`, `Ready.exists_told_visit`, `Ready.exists_idle_visit`: what the first visit
  leaves behind, what the second does, and what the later ones do
* `visits_fall_quiet`: the third visit and all later ones only look, and all but the first end in
  one way
-/

namespace PipelinesOperator

open Dialogue

/-- What comes of a visit: its result, the requests that were sent, and the state behind it. -/
structure Visit (σ : Type) where
  result : Except ReconcileError UInt64
  requests : List Request
  state : σ

namespace Cluster

variable {σ : Type}

/-- One pass over the application that a cluster holds. -/
def visit (c : Cluster σ) (r : Registry) (intervals : Intervals) (fresh : Material)
    (now : Timestamp) (s : σ) : Except (Fault Unit Empty) (Visit σ) :=
  (Manifest.shape.ofJson (.obj (c.object s))).map fun m =>
    let pass := m.reconcile r intervals fresh now
    ⟨(run c.answer pass s).result, questions c.answer pass s, (run c.answer pass s).state⟩

/-- Passes one after the other, each over the application as the cluster holds it by then. -/
def visits (c : Cluster σ) (r : Registry) (intervals : Intervals) (fresh : Nat → Material)
    (now : Nat → Timestamp) (s : σ) : Nat → Except (Fault Unit Empty) (Visit σ)
  | 0 => c.visit r intervals (fresh 0) (now 0) s
  | n + 1 => do
    let before ← visits c r intervals fresh now s n
    c.visit r intervals (fresh (n + 1)) (now (n + 1)) before.state

variable {c : Cluster σ} {r : Registry} {intervals : Intervals} {m : Manifest}
  {owner : OwnerReference} {space : String} {s s₁ s₂ : σ} {fresh : Material} {now : Timestamp}
  {x : Except ResolutionError Resolution} {y : Except ReconcileError UInt64}

/-- A cluster holds an application with a status. -/
def Holds (c : Cluster σ) (s : σ) (m : Manifest) (status : Option Status) : Prop :=
  c.Tellable (c.object s) ∧ Manifest.shape.ofJson (.obj (c.object s)) = .ok (m.withStatus status)

/-! ## One visit -/

/-- A visit is a resolution along the answers of the cluster's store, and a report along those of
the cluster. -/
theorem exists_visit {status : Option Status} {es : List (Exchange StoreCall StoreCall.Answer)}
    {es' : List (Exchange Request fun _ => Reply)} (hs : m.metadata.space = some space)
    (ho : m.ownerReference? = some owner) (hheld : c.Holds s m status)
    (hx : (m.toApplication.resolve r fresh).Gives es x)
    (hf : Follows (c.vault owner).serve es s s₁)
    (hy : ((m.withStatus status).report intervals space owner.name now x).Gives es' y)
    (hf' : Follows c.answer es' s₁ s₂) :
    ∃ visit, c.visit r intervals fresh now s = .ok visit ∧ visit.result = y ∧ visit.state = s₂ ∧
      ∀ q ∈ visit.requests,
        (∃ e ∈ es, ∃ s, q ∈ questions c.answer (StoreCall.perform owner e.1) s) ∨
        q ∈ es'.map Sigma.fst := by
  obtain ⟨hresult, hstate, hquestions⟩ := hx.run_eq hf
  obtain ⟨hresult', hstate', hquestions'⟩ := hy.run_eq hf'
  have hexpand : (run c.answer ((m.toApplication.resolve r fresh).expand
      (StoreCall.perform owner)) s).result = x ∧
      (run c.answer ((m.toApplication.resolve r fresh).expand
        (StoreCall.perform owner)) s).state = s₁ := by
    obtain ⟨h, h'⟩ := run_expand (StoreCall.perform owner) (m.toApplication.resolve r fresh) s
    exact ⟨h.trans hresult, h'.trans hstate⟩
  have hpass : (m.withStatus status).reconcile r intervals fresh now = _ :=
    Manifest.reconcile_eq_bind_report hs ho
  refine ⟨_, Except.map_eq_ok.mpr ⟨_, hheld.2, rfl⟩, ?_, ?_, ?_⟩
  · simp only [hpass, run_bind]
    simp only [Manifest.resolve_withStatus, hexpand.1, hexpand.2, hresult']
  · simp only [hpass, run_bind]
    simp only [Manifest.resolve_withStatus, hexpand.1, hexpand.2, hstate']
  · intro q hq
    simp only [hpass, questions_bind] at hq
    simp only [Manifest.resolve_withStatus, hexpand.1, hexpand.2, hquestions'] at hq
    rcases List.mem_append.mp hq with hq | hq
    · obtain ⟨call, hcall, s', hq⟩ := mem_questions_expand hq
      have hcall : call ∈ es.map Sigma.fst := hquestions ▸ hcall
      obtain ⟨e, he, rfl⟩ := List.mem_map.mp hcall
      exact .inl ⟨e, he, s', hq⟩
    · exact .inr hq

/-! ## What a visit leaves behind -/

/-- A report leaves the application with a status by which the outcome is told, and ends as all
later reports of it.  Either the status tells it already, or one request writes the status and the
object behind that request tells it. -/
theorem exists_report {status : Option Status} (hc : c.Faithful r m)
    (hs : m.metadata.space = some space) (ho : m.ownerReference? = some owner)
    (hheld : c.Holds s m status) (x : Except ResolutionError Resolution) (now : Timestamp) :
    ∃ es y s' status', ((m.withStatus status).report intervals space owner.name now x).Gives es y ∧
      Follows c.answer es s s' ∧ (c.vault owner).SameSecrets (m.toApplication.Concerns r) s s' ∧
      c.Holds s' m status' ∧ (m.withStatus status').Told intervals space owner.name x y := by
  rcases (m.withStatus status).exists_told_or_request intervals space owner.name now x with
    ⟨y, htold⟩ | ⟨v, events, status', request, hj, hn, hreq⟩
  · exact ⟨[], y, s, status, htold now, rfl, .refl s, hheld, htold⟩
  · have hname := Manifest.name_of_ownerReference? ho
    have hreq' : Manifest.statusRequest space owner.name status' = .ok request := by
      rwa [Manifest.metadata_withStatus, hname, Option.getD_some] at hreq
    obtain ⟨hsecrets, hobject, htellable, hreply⟩ :=
      hc.patch _ _ status' request s hs hname hreq' hheld.1
    have hheld' : c.Holds (c.answer request s).2 m (some status') := by
      refine ⟨htellable, ?_⟩
      rw [hobject]
      exact Manifest.ofJson_mergePatch hheld.2 status'
    obtain ⟨m', hread⟩ := hreply _ hheld'.2
    refine ⟨_, _, _, some status', Manifest.report_gives_of_written hj hn hreq hread, ⟨rfl, rfl⟩,
      hsecrets, hheld', fun now' => Manifest.report_gives_of_told hj ?_⟩
    rw [Manifest.status_withStatus]
    exact Verdict.nextStatus_of_nextStatus hn now'

/-- A cluster holds an application whose resolution ends in one way from now on. -/
structure Ready (c : Cluster σ) (r : Registry) (m : Manifest) (owner : OwnerReference)
    (x : Except ResolutionError Resolution) (status : Option Status) (s : σ) : Prop where
  held : c.Holds s m status
  settled : m.toApplication.Settled r (c.vault owner) s x

/-- The secrets being the same, what is settled stays settled. -/
theorem Ready.of_sameSecrets {status status' : Option Status} (h : c.Ready r m owner x status s)
    (hs : (c.vault owner).SameSecrets (m.toApplication.Concerns r) s s₁)
    (hheld : c.Holds s₁ m status') : c.Ready r m owner x status' s₁ :=
  ⟨hheld, fun fresh s' hs' => h.settled fresh s' (hs.trans hs')⟩

/-- The first visit leaves the cluster ready. -/
theorem exists_ready_visit {status : Option Status} (hc : c.Faithful r m)
    (hs : m.metadata.space = some space) (ho : m.ownerReference? = some owner)
    (hheld : c.Holds s m status) (fresh : Material) (now : Timestamp) :
    ∃ visit x status', c.visit r intervals fresh now s = .ok visit ∧
      c.Ready r m owner x status' visit.state := by
  obtain ⟨es, x, s₁, hx, hf, hkeeps, hsettled⟩ :=
    m.toApplication.resolve_settles (hc.truthful ho) fresh s
  have hobject : c.object s₁ = c.object s := hkeeps.rest
  have hheld₁ : c.Holds s₁ m status := by rwa [Holds, hobject]
  obtain ⟨es', y, s₂, status', hy, hf', hsecrets, hheld₂, -⟩ := exists_report hc hs ho hheld₁ x now
  obtain ⟨visit, hvisit, -, rfl, -⟩ := exists_visit hs ho hheld hx hf hy hf'
  exact ⟨visit, _, status', hvisit, Ready.of_sameSecrets ⟨hheld₁, hsettled⟩ hsecrets hheld₂⟩

/-- A visit of a cluster that is ready leaves it so, with a status by which the outcome is told. -/
theorem Ready.exists_told_visit {status : Option Status} (h : c.Ready r m owner x status s)
    (hc : c.Faithful r m) (hs : m.metadata.space = some space)
    (ho : m.ownerReference? = some owner) (fresh : Material) (now : Timestamp) :
    ∃ visit status', c.visit r intervals fresh now s = .ok visit ∧
      c.Ready r m owner x status' visit.state ∧
      (m.withStatus status').Told intervals space owner.name x visit.result := by
  obtain ⟨es, s₁, hx, hf, halike, -⟩ := h.settled fresh s (.refl s)
  have hobject : c.object s₁ = c.object s := halike.rest
  have hheld₁ : c.Holds s₁ m status := by
    rw [Holds, hobject]
    exact h.held
  obtain ⟨es', y, s₂, status', hy, hf', hsecrets, hheld₂, htold⟩ :=
    exists_report hc hs ho hheld₁ x now
  obtain ⟨visit, hvisit, rfl, rfl, -⟩ := exists_visit hs ho h.held hx hf hy hf'
  exact ⟨visit, status', hvisit, h.of_sameSecrets (halike.secret.trans hsecrets) hheld₂, htold⟩

/-- A visit of a cluster that is ready and tells the outcome only looks.  The report makes no
request, since the status tells the outcome already. -/
theorem Ready.exists_idle_visit {status : Option Status} (h : c.Ready r m owner x status s)
    (htold : (m.withStatus status).Told intervals space owner.name x y)
    (hs : m.metadata.space = some space) (ho : m.ownerReference? = some owner) (fresh : Material)
    (now : Timestamp) :
    ∃ visit, c.visit r intervals fresh now s = .ok visit ∧ visit.result = y ∧
      (∀ q ∈ visit.requests, q.method = .get) ∧ c.Ready r m owner x status visit.state := by
  obtain ⟨es, s₁, hx, hf, halike, hharmless⟩ := h.settled fresh s (.refl s)
  have hobject : c.object s₁ = c.object s := halike.rest
  have hheld₁ : c.Holds s₁ m status := by
    rw [Holds, hobject]
    exact h.held
  obtain ⟨visit, hvisit, hresult, rfl, hrequests⟩ := exists_visit hs ho h.held hx hf (htold now) rfl
  refine ⟨visit, hvisit, hresult, fun q hq => ?_, h.of_sameSecrets halike.secret hheld₁⟩
  rcases hrequests q hq with ⟨e, he, s', hq⟩ | hq
  · exact hharmless e he s' q hq
  · cases hq

/-! ## Visit after visit -/

/-- From a state on, every visit only looks, ends in one way, and leads to such a state again. -/
def Idle (c : Cluster σ) (r : Registry) (intervals : Intervals) (y : Except ReconcileError UInt64)
    (idle : σ → Prop) : Prop :=
  ∀ s, idle s → ∀ fresh now, ∃ visit, c.visit r intervals fresh now s = .ok visit ∧
    visit.result = y ∧ (∀ q ∈ visit.requests, q.method = .get) ∧ idle visit.state

/-- If the second visit leads to such a state, all later ones only look and end as it did. -/
theorem Idle.visits {fresh : Nat → Material} {now : Nat → Timestamp} {v₀ v₁ : Visit σ}
    {idle : σ → Prop} (h : c.Idle r intervals v₁.result idle)
    (h₀ : c.visit r intervals (fresh 0) (now 0) s = .ok v₀)
    (h₁ : c.visit r intervals (fresh 1) (now 1) v₀.state = .ok v₁) (hidle : idle v₁.state)
    (n : Nat) :
    ∃ visit, c.visits r intervals fresh now s n = .ok visit ∧
      (2 ≤ n → ∀ q ∈ visit.requests, q.method = .get) ∧
      (1 ≤ n → visit.result = v₁.result ∧ idle visit.state) := by
  induction n with
  | zero => exact ⟨v₀, h₀, by omega, by omega⟩
  | succ n ih =>
    obtain ⟨before, hbefore, -, hresult⟩ := ih
    cases n with
    | zero =>
      obtain rfl : before = v₀ := Except.ok.inj (hbefore.symm.trans h₀)
      exact ⟨v₁, Except.bind_eq_ok.mpr ⟨before, h₀, h₁⟩, by omega, fun _ => ⟨rfl, hidle⟩⟩
    | succ n =>
      obtain ⟨visit, hvisit, hresult', hrequests, hidle'⟩ :=
        h before.state (hresult (by omega)).2 (fresh (n + 2)) (now (n + 2))
      exact ⟨visit, Except.bind_eq_ok.mpr ⟨before, hbefore, hvisit⟩, fun _ => hrequests,
        fun _ => ⟨hresult', hidle'⟩⟩

/-- A visit of an application that lacks what a pass needs only says so. -/
theorem visit_of_lacking {e : ReconcileError}
    (hm : Manifest.shape.ofJson (.obj (c.object s)) = .ok m)
    (he : m.reconcile r intervals fresh now = .done (.error e)) :
    c.visit r intervals fresh now s = .ok ⟨.error e, [], s⟩ := by
  refine Except.map_eq_ok.mpr ⟨m, hm, ?_⟩
  rw [he]
  rfl

/-- Two visits lead to a state from which on all only look. -/
theorem exists_idle (hc : c.Faithful r m) (htellable : c.Tellable (c.object s))
    (hm : Manifest.shape.ofJson (.obj (c.object s)) = .ok m) (fresh : Nat → Material)
    (now : Nat → Timestamp) :
    ∃ v₀ v₁ idle, c.visit r intervals (fresh 0) (now 0) s = .ok v₀ ∧
      c.visit r intervals (fresh 1) (now 1) v₀.state = .ok v₁ ∧
      c.Idle r intervals v₁.result idle ∧ idle v₁.state := by
  have hlacking {e : ReconcileError}
      (he : ∀ fresh now, m.reconcile r intervals fresh now = .done (.error e)) :
      ∃ v₀ v₁ idle, c.visit r intervals (fresh 0) (now 0) s = .ok v₀ ∧
        c.visit r intervals (fresh 1) (now 1) v₀.state = .ok v₁ ∧
        c.Idle r intervals v₁.result idle ∧ idle v₁.state := by
    refine ⟨_, _, (· = s), visit_of_lacking hm (he _ _), visit_of_lacking hm (he _ _), ?_, rfl⟩
    rintro _ rfl fresh now
    refine ⟨_, visit_of_lacking hm (he fresh now), rfl, ?_, rfl⟩
    intro q hq
    cases hq
  cases hs : m.metadata.space with
  | none => exact hlacking fun fresh now => by rw [Manifest.reconcile, hs]
  | some space =>
    cases ho : m.ownerReference? with
    | none => exact hlacking fun fresh now => by rw [Manifest.reconcile, hs, ho]
    | some owner =>
      have hheld : c.Holds s m m.toApplication.status := ⟨htellable, m.withStatus_status.symm ▸ hm⟩
      obtain ⟨v₀, x, status₀, h₀, hready₀⟩ :=
        exists_ready_visit hc hs ho hheld (fresh 0) (now 0)
      obtain ⟨v₁, status₁, h₁, hready₁, htold⟩ :=
        hready₀.exists_told_visit hc hs ho (fresh 1) (now 1)
      exact ⟨v₀, v₁, c.Ready r m owner x status₁, h₀, h₁,
        fun s h fresh now => h.exists_idle_visit htold hs ho fresh now, hready₁⟩

/-- An application that is kept by a cluster without failures, and written to by nobody else, is
visited again and again: from the third visit on nothing is made and nothing is written, and from
the second on every visit ends in one way. -/
theorem visits_fall_quiet (hc : c.Faithful r m) (htellable : c.Tellable (c.object s))
    (hm : Manifest.shape.ofJson (.obj (c.object s)) = .ok m) (fresh : Nat → Material)
    (now : Nat → Timestamp) :
    ∃ y, ∀ n, ∃ visit, c.visits r intervals fresh now s n = .ok visit ∧
      (2 ≤ n → ∀ q ∈ visit.requests, q.method = .get) ∧ (1 ≤ n → visit.result = y) := by
  obtain ⟨v₀, v₁, idle, h₀, h₁, h, hidle⟩ := exists_idle hc htellable hm fresh now
  refine ⟨v₁.result, fun n => ?_⟩
  obtain ⟨visit, hvisit, hrequests, hresult⟩ := h.visits h₀ h₁ hidle n
  exact ⟨visit, hvisit, hrequests, fun hn => (hresult hn).1⟩

/-! ## The plain application -/

/-- The manifest of the plain application. -/
def plainManifest : Manifest where
  metadata := Application.plain.metadata
  spec :=
    { components := { dspVersion := "v1", engineDriver := "argo" }
      database := none
      objectStorage := { managed := some { deploy := true, image := "minio:1" } } }
  status := none

/-- A server that keeps the plain application, and no secrets. -/
def plainServer : Server where
  manifests := [(("pipelines", "sample"), .obj
    [("metadata", .obj [("name", .str "sample"), ("namespace", .str "pipelines"),
      ("uid", .str "1")]),
    ("spec", .obj [("objectStorage", .obj [("minio", .obj [("image", .str "minio:1")])])])])]

/-- The credentials of the plain application are in secrets of the operator. -/
theorem plainManifest_concerns {space name : String}
    (h : plainManifest.toApplication.Concerns ⟨∅⟩ space name) :
    IsSegment space ∧ IsSegment name := by
  have hplan : (plainManifest.toApplication.plan ⟨∅⟩).map (fun p =>
      [p.database.credentials, p.objectStorage.credentials].map fun ref => (ref.space, ref.name)) =
        .ok [("pipelines", "ds-pipeline-db-sample"), ("pipelines", "ds-pipeline-s3-sample")] := rfl
  obtain ⟨p, ref, hp, href, rfl, rfl⟩ := h
  rw [hp] at hplan
  have hmem : (ref.space, ref.name) ∈
      [("pipelines", "ds-pipeline-db-sample"), ("pipelines", "ds-pipeline-s3-sample")] := by
    rw [← Except.ok.inj hplan]
    exact List.mem_map_of_mem (by simpa using href)
  have hsegments : ∀ place ∈ [("pipelines", "ds-pipeline-db-sample"),
      ("pipelines", "ds-pipeline-s3-sample")], IsSegment place.1 ∧ IsSegment place.2 := by
    decide
  exact hsegments _ hmem

/-- To the plain application the server is faithful. -/
theorem plainServer_faithful :
    (Server.cluster "pipelines" "sample").Faithful ⟨∅⟩ plainManifest :=
  Server.faithful rfl rfl (by decide) (by decide) fun _ _ => plainManifest_concerns

theorem plainServer_tellable : (Server.cluster "pipelines" "sample").Tellable
    ((Server.cluster "pipelines" "sample").object plainServer) := by
  refine ⟨⟨_, .null, rfl, by decide⟩, ?_⟩
  change (Json.obj [("metadata", .obj [("name", .str "sample"), ("namespace", .str "pipelines"),
      ("uid", .str "1")]),
    ("spec", .obj [("objectStorage", .obj [("minio", .obj [("image", .str "minio:1")])])]),
    ("status", .null)]).Plain 127
  simp [Json.plain_obj_iff]

/-- On a server that holds none of its secrets yet, the plain application falls quiet. -/
theorem visits_fall_quiet_plain :
    let cluster := Server.cluster "pipelines" "sample"
    cluster.Faithful ⟨∅⟩ plainManifest ∧ cluster.Tellable (cluster.object plainServer) ∧
    Manifest.shape.ofJson (.obj (cluster.object plainServer)) = .ok plainManifest ∧
    ∃ y, ∀ n, ∃ visit, cluster.visits ⟨∅⟩ ⟨30, 60⟩
        (fun n => if n = 0 then .repeating 0 else .repeating 1)
        (fun _ => ⟨⟨2024, 2, 29⟩, ⟨23, 59, 60, 0⟩, by decide, by decide⟩) plainServer n =
          .ok visit ∧
      (2 ≤ n → ∀ q ∈ visit.requests, q.method = .get) ∧ (1 ≤ n → visit.result = y) :=
  ⟨plainServer_faithful, plainServer_tellable, rfl,
    visits_fall_quiet plainServer_faithful plainServer_tellable rfl _ _⟩

end Cluster

end PipelinesOperator
