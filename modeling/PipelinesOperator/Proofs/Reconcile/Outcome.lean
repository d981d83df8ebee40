import PipelinesOperator.Proofs.Reconcile.Requests

/-!
# The outcome of a pass

A pass is decided by three things: whether the metadata has what it needs, how the resolution ends,
and what becomes of the status.  Each decides over one kind of error alone.  A fault of the store
ends the pass before any status is looked at; a misconfiguration is recorded like a success, with
another time until the next pass; and only a status that has to be written can fail to be.

The courses here are all that there are, whatever the server answers, and every one of them can
occur.

## Main definitions

* `Manifest.Finds`: the verdict on a resolution, and when the application is looked at again
* `Request.Writes`, `Manifest.Barred`: the request that writes a status, and why there is none
* `Manifest.Ending`: how a pass ends behind a resolution
* `Manifest.Course`: how a pass goes from its beginning

## Main results

* `report_gives_iff`, `reconcile_gives_iff`: these are all the endings and courses
* `reconcile_decided_by_outcome`: what is sent, what comes of it, and when the next pass is due
-/

namespace PipelinesOperator

open Dialogue

/-- A request that writes one status of an application. -/
structure Request.Writes (q : Request) (space name : String) (status : Status) : Prop
    extends q.Reports space name where
  named : name ≠ ""
  content : q.body =
    some ⟨"application/merge-patch+json", .obj [("status", (Status.shape .hub).write status)]⟩

namespace Manifest

/-- The verdict on the outcome of a resolution, with the seconds until the application is looked at
again.  On a fault of the store there is none. -/
inductive Finds (intervals : Intervals) :
    Except ResolutionError Resolution → Verdict → UInt64 → Prop where
  | resolved (resolution : Resolution) :
      Finds intervals (.ok resolution) (.resolved resolution.parameters.hash) intervals.requeue
  | invalid (mistake : Misconfiguration) :
      Finds intervals (.error (.configuration mistake)) (.invalid mistake.message)
        intervals.errorRequeue

/-- Why no status of an application can be sent: its name is empty, or makes no target. -/
inductive Barred (space name : String) : ClusterFault → Prop where
  | unnamed (empty : name = "") : Barred space name .emptyName
  | misplaced (named : name ≠ "")
      (target : Target.ofText?
        ("/apis/datasciencepipelinesapplications.opendatahub.io/v1alpha1/namespaces/" ++ space ++
          "/datasciencepipelinesapplications/" ++ name ++
          "/status?&fieldManager=operator.datasciencepipelines.opendatahub.io").toList = none) :
      Barred space name .badPath

/-- How a pass ends behind a resolution: what it sends then, and what comes of the pass. -/
inductive Ending (m : Manifest) (intervals : Intervals) (space name : String) (now : Timestamp) :
    Except ResolutionError Resolution → List RequestExchange → Except ReconcileError UInt64 →
      Prop where
  | fault (fault : ClusterFault) :
      Ending m intervals space name now (.error (.store fault)) [] (.error (.store fault))
  | told {x : Except ResolutionError Resolution} {v : Verdict} {seconds : UInt64}
      (finds : Finds intervals x v seconds)
      (none : v.nextStatus m.toApplication.status now = none) :
      Ending m intervals space name now x [] (.ok seconds)
  | barred {x : Except ResolutionError Resolution} {v : Verdict} {seconds : UInt64}
      {status : Status} {fault : ClusterFault} (finds : Finds intervals x v seconds)
      (next : v.nextStatus m.toApplication.status now = some status)
      (barred : Barred space name fault) :
      Ending m intervals space name now x [] (.error (.status fault))
  | written {x : Except ResolutionError Resolution} {v : Verdict} {seconds : UInt64}
      {status : Status} {q : Request} {reply : Reply} {m' : Manifest}
      (finds : Finds intervals x v seconds)
      (next : v.nextStatus m.toApplication.status now = some status)
      (writes : q.Writes space name status) (accepted : reply.read shape = .ok m') :
      Ending m intervals space name now x [⟨q, reply⟩] (.ok seconds)
  | refused {x : Except ResolutionError Resolution} {v : Verdict} {seconds : UInt64}
      {status : Status} {q : Request} {reply : Reply} {fault : ClusterFault}
      (finds : Finds intervals x v seconds)
      (next : v.nextStatus m.toApplication.status now = some status)
      (writes : q.Writes space name status) (refusal : reply.read shape = .error fault) :
      Ending m intervals space name now x [⟨q, reply⟩] (.error (.status fault))

/-- How a pass goes: what it sends, and what comes of it.  What is sent for the secrets patches
nothing. -/
inductive Course (m : Manifest) (r : Registry) (intervals : Intervals) (fresh : Material)
    (now : Timestamp) : List RequestExchange → Except ReconcileError UInt64 → Prop where
  | homeless (home : m.metadata.space = none) :
      Course m r intervals fresh now [] (.error .withoutNamespace)
  | ownerless {space : String} (home : m.metadata.space = some space)
      (lacks : m.metadata.name = none ∨ m.metadata.uid = none) :
      Course m r intervals fresh now [] (.error .withoutOwner)
  | reported {space own uid : String} {secrets status : List RequestExchange}
      {x : Except ResolutionError Resolution} {y : Except ReconcileError UInt64}
      (home : m.metadata.space = some space) (name : m.metadata.name = some own)
      (id : m.metadata.uid = some uid)
      (resolves : ((m.toApplication.resolve r fresh).expand
        (StoreCall.perform ⟨apiVersion, none, some true, kind, own, uid⟩)).Gives secrets x)
      (patchless : ∀ e ∈ secrets, e.1.method ≠ .patch)
      (ending : m.Ending intervals space own now x status y) :
      Course m r intervals fresh now (secrets ++ status) y

variable {m : Manifest} {r : Registry} {intervals : Intervals} {fresh : Material}
  {now : Timestamp} {space name : String} {owner : OwnerReference} {es : List RequestExchange}
  {x : Except ResolutionError Resolution} {v : Verdict} {seconds : UInt64} {status : Status}
  {y : Except ReconcileError UInt64}

/-! ## Verdicts -/

/-- What a resolution ends in is a fault of the store, or there is a verdict on it. -/
theorem exists_fault_or_finds (intervals : Intervals) (x : Except ResolutionError Resolution) :
    (∃ fault, x = .error (.store fault)) ∨ ∃ v seconds, Finds intervals x v seconds := by
  rcases x with (mistake | fault) | resolution
  · exact .inr ⟨_, _, .invalid mistake⟩
  · exact .inl ⟨fault, rfl⟩
  · exact .inr ⟨_, _, .resolved resolution⟩

theorem judge_of_finds (h : Finds intervals x v seconds) (name space : String) :
    ∃ events, judge name space x = .ok (v, events) ∧ v.requeue intervals = seconds := by
  cases h with
  | resolved resolution => exact ⟨_, rfl, rfl⟩
  | invalid mistake => exact ⟨_, rfl, rfl⟩

/-! ## The request for a status -/

theorem statusRequest_eq_ok_iff {q : Request} :
    statusRequest space name status = .ok q ↔ q.Writes space name status := by
  rw [statusRequest, statusTarget_eq]
  constructor
  · intro h
    split at h
    · cases h
    · rename_i named
      obtain ⟨hmethod, htarget, hbody⟩ := Request.of_eq_ok h
      exact ⟨⟨hmethod, htarget, _, hbody⟩, named, hbody⟩
  · rintro ⟨⟨hmethod, htarget, -⟩, named, hbody⟩
    obtain ⟨method, target, body⟩ := q
    subst hmethod hbody
    rw [if_neg named, Request.of, htarget]

theorem statusRequest_eq_error_iff {fault : ClusterFault} :
    statusRequest space name status = .error fault ↔ Barred space name fault := by
  rw [statusRequest, statusTarget_eq]
  constructor
  · intro h
    split at h
    · rename_i empty
      cases h
      exact .unnamed empty
    · rename_i named
      rw [Request.of] at h
      split at h
      · cases h
      · rename_i htarget
        cases h
        exact .misplaced named htarget
  · rintro (empty | ⟨named, htarget⟩)
    · rw [if_pos empty]
    · rw [if_neg named, Request.of, htarget]

/-! ## Endings -/

/-- With a verdict a pass ends by recording it. -/
theorem ending_of_record {z : Except ReconcileError Unit} (hname : m.metadata.name = some name)
    (hfinds : Finds intervals x v seconds) (h : (m.record space now v).Gives es z) :
    m.Ending intervals space name now x es (z.map fun _ => seconds) := by
  rcases (gives_record hname).mp h with
    ⟨hnone, rfl, rfl⟩ | ⟨status, hnext, ⟨fault, hreq, rfl, rfl⟩ | ⟨q, reply, hreq, rfl, rfl⟩⟩
  · exact .told hfinds hnone
  · exact .barred hfinds hnext (statusRequest_eq_error_iff.mp hreq)
  · have hwrites := statusRequest_eq_ok_iff.mp hreq
    cases hreply : reply.read shape with
    | ok m' => exact .written hfinds hnext hwrites hreply
    | error fault => exact .refused hfinds hnext hwrites hreply

/-- A pass that can record its verdict can end so. -/
theorem report_gives_of_record {z : Except ReconcileError Unit}
    (hfinds : Finds intervals x v seconds) (h : (m.record space now v).Gives es z) :
    (m.report intervals space name now x).Gives es (z.map fun _ => seconds) := by
  obtain ⟨events, hj, rfl⟩ := judge_of_finds hfinds name space
  exact (gives_report hj).mpr ⟨z, h, rfl⟩

/-- The endings of a pass are those. -/
theorem report_gives_iff (hname : m.metadata.name = some name) :
    (m.report intervals space name now x).Gives es y ↔
      m.Ending intervals space name now x es y := by
  constructor
  · intro h
    rcases exists_fault_or_finds intervals x with ⟨fault, rfl⟩ | ⟨v, seconds, hfinds⟩
    · obtain ⟨rfl, rfl⟩ := gives_done.mp h
      exact .fault fault
    · obtain ⟨events, hj, rfl⟩ := judge_of_finds hfinds name space
      obtain ⟨z, hz, rfl⟩ := (gives_report hj).mp h
      exact ending_of_record hname hfinds hz
  · intro h
    cases h with
    | fault fault => exact report_gives_of_fault rfl
    | told finds none =>
      exact report_gives_of_record finds ((gives_record hname).mpr (.inl ⟨none, rfl, rfl⟩))
    | @barred x v seconds status fault finds next barred =>
      have hreq : statusRequest space name status = .error fault :=
        statusRequest_eq_error_iff.mpr barred
      exact report_gives_of_record (z := .error (.status fault)) finds
        ((gives_record hname).mpr (.inr ⟨status, next, .inl ⟨fault, hreq, rfl, rfl⟩⟩))
    | @written x v seconds status q reply m' finds next writes accepted =>
      have hreq : statusRequest space name status = .ok q := statusRequest_eq_ok_iff.mpr writes
      refine report_gives_of_record (z := .ok ()) finds
        ((gives_record hname).mpr (.inr ⟨status, next, .inr ⟨q, reply, hreq, rfl, ?_⟩⟩))
      rw [accepted]
      rfl
    | @refused x v seconds status q reply fault finds next writes refusal =>
      have hreq : statusRequest space name status = .ok q := statusRequest_eq_ok_iff.mpr writes
      refine report_gives_of_record (z := .error (.status fault)) finds
        ((gives_record hname).mpr (.inr ⟨status, next, .inr ⟨q, reply, hreq, rfl, ?_⟩⟩))
      rw [refusal]
      rfl

/-! ## Courses -/

theorem ownerReference?_eq_none_iff :
    m.ownerReference? = none ↔ m.metadata.name = none ∨ m.metadata.uid = none := by
  rw [ownerReference?]
  cases m.metadata.name <;> cases m.metadata.uid <;> simp

/-- The requests for the secrets patch nothing. -/
theorem SecretRequests.patchless (h : m.SecretRequests r fresh es) :
    ∀ e ∈ es, e.1.method ≠ .patch := by
  have hone {ref : CredentialReference} {own uid : String} {data : List (String × List UInt8)}
      {es : List RequestExchange} (h : ref.Sends own uid data es) :
      ∀ e ∈ es, e.1.method ≠ .patch := by
    cases h with
    | nothing => simp
    | fetch fetches => simp [fetches.method]
    | make fetches absent operator makes => simp [fetches.method, makes.method]
    | fetchAgain fetches absent operator makes taken again =>
      simp [fetches.method, makes.method, again.method]
  cases h with
  | nothing => simp
  | password plan name id sends => exact hone sends
  | keys plan name id obtains sends =>
    intro e he
    rcases List.mem_append.mp he with he | he
    · exact hone obtains.sends e he
    · exact hone sends e he

/-- The courses of a pass are those.  With its metadata in place, a pass is a resolution and the
report of its outcome. -/
theorem reconcile_gives_iff :
    (m.reconcile r intervals fresh now).Gives es y ↔ m.Course r intervals fresh now es y := by
  constructor
  · intro h
    cases hs : m.metadata.space with
    | none =>
      rw [reconcile, hs] at h
      obtain ⟨rfl, rfl⟩ := gives_done.mp h
      exact .homeless hs
    | some space =>
      cases ho : m.ownerReference? with
      | none =>
        rw [reconcile, hs, ho] at h
        obtain ⟨rfl, rfl⟩ := gives_done.mp h
        exact .ownerless hs (ownerReference?_eq_none_iff.mp ho)
      | some owner =>
        rw [reconcile_eq_bind_report hs ho] at h
        obtain ⟨es₁, es₂, x, rfl, hresolve, hreport⟩ := gives_bind.mp h
        obtain ⟨own, uid, hname, hid, rfl⟩ := exists_of_ownerReference? ho
        obtain ⟨qs, hgives, hc⟩ := gives_expand.mp hresolve
        exact .reported hs hname hid hresolve (secretRequests_of_resolve ho hgives hc).patchless
          ((report_gives_iff hname).mp hreport)
  · intro h
    cases h with
    | homeless home =>
      rw [reconcile, home]
      exact .refl _
    | ownerless home lacks =>
      rw [reconcile, home, ownerReference?_eq_none_iff.mpr lacks]
      exact .refl _
    | @reported space own uid secrets status x y home name id resolves patchless ending =>
      have howner : m.ownerReference? = some ⟨apiVersion, none, some true, kind, own, uid⟩ := by
        rw [ownerReference?, name, id]
        rfl
      rw [reconcile_eq_bind_report home howner]
      exact gives_bind.mpr ⟨_, _, _, rfl, resolves, (report_gives_iff name).mpr ending⟩

/-- A pass with its errors reported is a pass: behind an error the application is looked at again
when errors are, and otherwise when the pass says. -/
theorem attend_gives_iff {outcome : Except ReconcileError Unit} :
    (m.attend r intervals fresh now).Gives es (outcome, seconds) ↔
      (outcome = .ok () ∧ m.Course r intervals fresh now es (.ok seconds)) ∨
      ∃ e, outcome = .error e ∧ m.Course r intervals fresh now es (.error e) ∧
        seconds = intervals.errorRequeue := by
  rw [attend, gives_bind]
  constructor
  · rintro ⟨es₁, es₂, y, rfl, h₁, h₂⟩
    cases y with
    | ok seconds' =>
      obtain ⟨rfl, ⟨⟩⟩ := gives_done.mp h₂
      rw [List.append_nil]
      exact .inl ⟨rfl, reconcile_gives_iff.mp h₁⟩
    | error e =>
      obtain ⟨rfl, ⟨⟩⟩ := gives_done.mp (gives_tell.mp h₂)
      rw [List.append_nil]
      exact .inr ⟨e, rfl, reconcile_gives_iff.mp h₁, rfl⟩
  · rintro (⟨rfl, h⟩ | ⟨e, rfl, h, rfl⟩)
    · exact ⟨es, [], _, (List.append_nil es).symm, reconcile_gives_iff.mpr h, .refl _⟩
    · exact ⟨es, [], _, (List.append_nil es).symm, reconcile_gives_iff.mpr h, .tell (.refl _)⟩

/-- Whatever the server answers, a pass takes one of its courses, and each of them can be taken.  An
application whose pass fails is looked at again when errors are, and one whose pass does not when
its verdict says. -/
theorem reconcile_decided_by_outcome (m : Manifest) (r : Registry) (intervals : Intervals)
    (fresh : Material) (now : Timestamp) :
    (∀ {σ : Type} (answer : Request → σ → Reply × σ) (s : σ), ∃ es,
      m.Course r intervals fresh now es (run answer (m.reconcile r intervals fresh now) s).result ∧
      Follows answer es s (run answer (m.reconcile r intervals fresh now) s).state) ∧
    (∀ es y, (m.reconcile r intervals fresh now).Gives es y ↔
      m.Course r intervals fresh now es y) ∧
    (∀ es outcome seconds, (m.attend r intervals fresh now).Gives es (outcome, seconds) ↔
      (outcome = .ok () ∧ m.Course r intervals fresh now es (.ok seconds)) ∨
      ∃ e, outcome = .error e ∧ m.Course r intervals fresh now es (.error e) ∧
        seconds = intervals.errorRequeue) := by
  refine ⟨fun answer s => ?_, fun _ _ => reconcile_gives_iff, fun _ _ _ => attend_gives_iff⟩
  obtain ⟨es, hgives, hfollows⟩ := exists_gives_run answer (m.reconcile r intervals fresh now) s
  exact ⟨es, reconcile_gives_iff.mp hgives, hfollows⟩

end Manifest

end PipelinesOperator
