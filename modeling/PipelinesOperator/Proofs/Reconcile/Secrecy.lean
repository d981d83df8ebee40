import PipelinesOperator.Proofs.Cluster.Secrecy
import PipelinesOperator.Proofs.Reconcile.Requests
import PipelinesOperator.Proofs.Resolution.Secrecy

/-!
# Passes keep secrets

A pass resolves an application and reports a verdict, which has nothing of the credentials in it.
So passes that see secrets of the same outlines stay in step.  What there is to see of them is the
same: what they come to, what they tell, and what they send, but for the contents of the secrets
that they make.

## Main definitions

* `Dialogue.seen`: what there is to see of a run
* `Resolution.Indistinct`: resolutions that differ in their credentials only, and do not show it

## Main results

* `reconcile_inStep`: passes over one application stay in step
* `reconcile_seen`: they are seen as one by whoever answers them alike
* `credential_bytes_do_not_leak`: so they are on clusters with the same secrets of other contents
-/

namespace PipelinesOperator

open Dialogue

/-- What there is to see of a run: the result, the events, and the requests without the contents of
the secrets that they make. -/
def Dialogue.seen {σ α : Type} (answer : Request → σ → Reply × σ) (d : ClusterDialogue α) (s : σ) :
    α × List Event × List Request :=
  ((run answer d s).result, (run answer d s).events, (questions answer d s).map Request.masked)

/-- Runs in step with one result look the same. -/
theorem Dialogue.InStep.seen_eq {σ τ α ε : Type} {d d' : ClusterDialogue (Except ε α)}
    {answer : Request → σ → Reply × σ} {answer' : Request → τ → Reply × τ} {states : σ → τ → Prop}
    (h : InStep Request.likeness (Except.Like Eq) d d')
    (twins : Twins Request.likeness answer answer' states) {s : σ} {s' : τ} (hs : states s s') :
    d.seen answer s = d'.seen answer' s' := by
  obtain ⟨hresult, hevents, -, hquestions⟩ := h.run twins hs
  have hmasked : (questions answer d s).map Request.masked =
      (questions answer' d' s').map Request.masked := by
    rw [← List.forall₂_eq_eq_eq, List.forall₂_map_left_iff, List.forall₂_map_right_iff]
    exact hquestions.imp fun _ _ hq => Request.Like.masked_eq hq
  rw [seen, seen, hresult.eq, hevents, hmasked]

/-- Resolutions that are the same in all but their credentials, are written as the same document,
and are shown as the same text. -/
structure Resolution.Indistinct (x x' : Resolution) : Prop where
  rest : x' = { x with password := x'.password, keys := x'.keys }
  written : Parameters.shape.write x'.parameters = Parameters.shape.write x.parameters
  shown : x'.debugText = x.debugText

theorem Resolution.Like.indistinct {x x' : Resolution} (h : x.Like x') : x.Indistinct x' where
  rest := h.rest
  written := by rw [h.parameters_eq]
  shown := h.debugText_eq

namespace Manifest

variable {m : Manifest} {owner : OwnerReference}

/-- A verdict has nothing of the credentials in it. -/
theorem judge_like (name space : String) {x x' : Except ResolutionError Resolution}
    (h : Except.Like Resolution.Like x x') : judge name space x = judge name space x' := by
  cases h with
  | error e => rfl
  | ok h => rw [judge, judge, h.parameters_eq]

/-- A status is written in step.  A patch is answered alike only if it is answered the same, so the
two passes end alike. -/
theorem record_inStep (m : Manifest) (space : String) (now : Timestamp) (v : Verdict) :
    InStep Request.likeness (Except.Like Eq) (m.record space now v) (m.record space now v) := by
  rw [record]
  cases v.nextStatus m.toApplication.status now with
  | none => exact .done (.ok rfl)
  | some status =>
    refine .tell _ ?_
    cases hreq : statusRequest space (m.metadata.name.getD "") status with
    | error fault => exact .done (.error _)
    | ok q =>
      have hmethod : q.method = .patch := (Request.reports_of_statusRequest hreq).method
      refine .ask (.same q) fun a a' ha => .done ?_
      obtain rfl : a = a' := (Reply.like_iff_of_eq (q := q) hmethod).mp ha
      exact .refl (fun _ => rfl) _

/-- Outcomes that differ in the credentials only are reported in step. -/
theorem report_inStep (m : Manifest) (intervals : Intervals) (space name : String)
    (now : Timestamp) {x x' : Except ResolutionError Resolution}
    (h : Except.Like Resolution.Like x x') :
    InStep Request.likeness (Except.Like Eq) (m.report intervals space name now x)
      (m.report intervals space name now x') := by
  rw [report, report, judge_like name space h]
  cases judge name space x' with
  | error e => exact .done (.error e)
  | ok verdict =>
    obtain ⟨v, events⟩ := verdict
    refine .tellAll events ((m.record_inStep space now v).thenTry ?_)
    intro _ _ _
    exact .done (.ok rfl)

/-- Resolutions of one application stay in step on the cluster. -/
theorem resolve_inStep_of_owner (ho : m.ownerReference? = some owner) (r : Registry)
    (fresh fresh' : Material) :
    InStep Request.likeness (Except.Like Resolution.Like)
      ((m.toApplication.resolve r fresh).expand (StoreCall.perform owner))
      ((m.toApplication.resolve r fresh').expand (StoreCall.perform owner)) := by
  obtain ⟨own, uid, -, -, rfl⟩ := exists_of_ownerReference? ho
  exact (m.toApplication.resolve_inStep r fresh fresh').expand perform_inStep

/-- Passes over one application stay in step, whatever material each has at hand. -/
theorem reconcile_inStep (m : Manifest) (r : Registry) (intervals : Intervals)
    (fresh fresh' : Material) (now : Timestamp) :
    InStep Request.likeness (Except.Like Eq) (m.reconcile r intervals fresh now)
      (m.reconcile r intervals fresh' now) := by
  cases hs : m.metadata.space with
  | none =>
    rw [reconcile, reconcile, hs]
    exact .done (.error _)
  | some space =>
    cases ho : m.ownerReference? with
    | none =>
      rw [reconcile, reconcile, hs, ho]
      exact .done (.error _)
    | some owner =>
      rw [reconcile_eq_bind_report hs ho, reconcile_eq_bind_report hs ho]
      refine (resolve_inStep_of_owner ho r fresh fresh').bind fun x x' hx => ?_
      exact m.report_inStep intervals space owner.name now hx

/-- What there is to see of a pass does not depend on its material, nor on anything in which those
who answer it are alike. -/
theorem reconcile_seen {σ τ : Type} {answer : Request → σ → Reply × σ}
    {answer' : Request → τ → Reply × τ} {states : σ → τ → Prop}
    (twins : Twins Request.likeness answer answer' states) {s : σ} {s' : τ} (hs : states s s')
    (m : Manifest) (r : Registry) (intervals : Intervals) (fresh fresh' : Material)
    (now : Timestamp) :
    (m.reconcile r intervals fresh now).seen answer s =
      (m.reconcile r intervals fresh' now).seen answer' s' :=
  (m.reconcile_inStep r intervals fresh fresh' now).seen_eq twins hs

/-- On two clusters that hold the same, but for the contents of secrets, and under one script of
replies that are replaced, two passes over one application come to the same, tell the same, and
send the same but for the contents of the secrets that they make.  They leave the clusters with the
same statuses, and what they resolve differs in the credentials only, which do not show. -/
theorem credential_bytes_do_not_leak {s s' : Server} (h : s.Alike s')
    (script : List (Option Server.Mishap)) (m : Manifest) (r : Registry) (intervals : Intervals)
    (fresh fresh' : Material) (now : Timestamp) :
    (m.reconcile r intervals fresh now).seen Server.scripted (script, s) =
      (m.reconcile r intervals fresh' now).seen Server.scripted (script, s') ∧
    (run Server.scripted (m.reconcile r intervals fresh now) (script, s)).state.2.Alike
      (run Server.scripted (m.reconcile r intervals fresh' now) (script, s')).state.2 ∧
    ∀ owner, m.ownerReference? = some owner →
      Except.Like Resolution.Indistinct
        (run Server.scripted ((m.toApplication.resolve r fresh).expand (StoreCall.perform owner))
          (script, s)).result
        (run Server.scripted ((m.toApplication.resolve r fresh').expand (StoreCall.perform owner))
          (script, s')).result := by
  have hs : (script, s).1 = (script, s').1 ∧ (script, s).2.Alike (script, s').2 := ⟨rfl, h⟩
  refine ⟨reconcile_seen Server.scripted_twins hs m r intervals fresh fresh' now, ?_, ?_⟩
  · obtain ⟨-, -, ⟨-, hstate⟩, -⟩ :=
      (m.reconcile_inStep r intervals fresh fresh' now).run Server.scripted_twins hs
    exact hstate
  · intro owner ho
    obtain ⟨hresult, -⟩ := (resolve_inStep_of_owner ho r fresh fresh').run Server.scripted_twins hs
    exact hresult.mono fun _ _ hx => hx.indistinct

/-! ## Two passwords -/

/-- The server of the plain application, with a password where the operator would keep it. -/
def passwordServer (password : List UInt8) : Server :=
  Cluster.plainServer.putSecret "pipelines" "ds-pipeline-db-sample"
    (some ((∅ : SecretFields).insert "password" password))

theorem passwordServer_alike : (passwordServer [97]).Alike (passwordServer [98, 99]) :=
  (Server.Alike.refl Cluster.plainServer).putSecret _ _ rfl

/-- The third request, which makes the secret of the keys, is handled and yet refused, so that the
keys are fetched again. -/
def refusal : List (Option Server.Mishap) :=
  [none, none, some ⟨Server.error 409 "AlreadyExists" "secrets already exists", true⟩]

theorem credential_bytes_do_not_leak_passwords :
    (passwordServer [97]).Alike (passwordServer [98, 99]) ∧
    (passwordServer [97]).secrets ≠ (passwordServer [98, 99]).secrets ∧
    let pass (fresh : Material) := Cluster.plainManifest.reconcile ⟨∅⟩ ⟨30, 60⟩ fresh
      ⟨⟨2024, 2, 29⟩, ⟨23, 59, 60, 0⟩, by decide, by decide⟩
    let resolution (fresh : Material) := (Cluster.plainManifest.toApplication.resolve ⟨∅⟩
      fresh).expand (StoreCall.perform ⟨apiVersion, none, some true, kind, "sample", "1"⟩)
    (pass (.repeating 0)).seen Server.scripted (refusal, passwordServer [97]) =
      (pass (.repeating 1)).seen Server.scripted (refusal, passwordServer [98, 99]) ∧
    (run Server.scripted (pass (.repeating 0)) (refusal, passwordServer [97])).state.2.Alike
      (run Server.scripted (pass (.repeating 1)) (refusal, passwordServer [98, 99])).state.2 ∧
    Except.Like Resolution.Indistinct
      (run Server.scripted (resolution (.repeating 0)) (refusal, passwordServer [97])).result
      (run Server.scripted (resolution (.repeating 1))
        (refusal, passwordServer [98, 99])).result := by
  obtain ⟨hseen, hstate, hresolution⟩ := credential_bytes_do_not_leak passwordServer_alike refusal
    Cluster.plainManifest ⟨∅⟩ ⟨30, 60⟩ (.repeating 0) (.repeating 1)
    ⟨⟨2024, 2, 29⟩, ⟨23, 59, 60, 0⟩, by decide, by decide⟩
  exact ⟨passwordServer_alike, by decide, hseen, hstate, hresolution _ rfl⟩

end Manifest

end PipelinesOperator
