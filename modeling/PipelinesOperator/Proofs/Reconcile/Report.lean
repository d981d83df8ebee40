import PipelinesOperator.Proofs.Application.Manifest
import PipelinesOperator.Proofs.Dialogue
import PipelinesOperator.Reconcile.Basic

/-!
# How a pass ends

With the outcome of the resolution at hand, a pass reports it: a fault of the store is passed on,
and a verdict is recorded in the status, unless the status tells it already.  Whether there is
anything to be written does not depend on the time, and whether it can be written does not depend
on what it is.

## Main definitions

* `Manifest.report`: what a pass does with the outcome of the resolution
* `Manifest.Told`: an outcome of which a report sends nothing

## Main results

* `reconcile_eq_bind_report`: a pass is a resolution and a report
* `report_gives_of_fault`, `report_gives_of_told`, `report_gives_of_unwritable`,
  `report_gives_of_written`: the four ways in which a report ends
* `exists_told_or_request`: a report either sends nothing at any time, or sends a status
-/

namespace PipelinesOperator

open Dialogue

/-- Nothing is left to be written when the current status tells the verdict, whatever the time. -/
theorem Verdict.nextStatus_eq_none_iff {v : Verdict} {current : Option Status} {now : Timestamp} :
    v.nextStatus current now = none ↔ (current.any fun s => s.tells v) = true := by
  rw [nextStatus]
  split
  · rename_i h
    exact iff_of_true rfl h
  · rename_i h
    exact iff_of_false (Option.some_ne_none _) h

/-- The status that is written tells the verdict. -/
theorem Verdict.exists_since_of_nextStatus {v : Verdict} {current : Option Status}
    {now : Timestamp} {status : Status} (h : v.nextStatus current now = some status) :
    ∃ since, status = v.status since now := by
  rw [nextStatus] at h
  split at h
  · cases h
  · exact ⟨_, (Option.some.inj h).symm⟩

/-- Behind the status that is written for a verdict nothing is left to be written. -/
theorem Verdict.nextStatus_of_nextStatus {v : Verdict} {current : Option Status} {now : Timestamp}
    {status : Status} (h : v.nextStatus current now = some status) (later : Timestamp) :
    v.nextStatus (some status) later = none := by
  obtain ⟨since, rfl⟩ := v.exists_since_of_nextStatus h
  exact v.nextStatus_status since now later

namespace Manifest

variable {m : Manifest} {r : Registry} {intervals : Intervals} {fresh : Material} {now : Timestamp}
  {space name : String} {owner : OwnerReference} {x : Except ResolutionError Resolution}
  {v : Verdict} {events : List Event} {status : Status}

/-- What a pass does with the outcome of the resolution. -/
def report (m : Manifest) (intervals : Intervals) (space name : String) (now : Timestamp)
    (x : Except ResolutionError Resolution) : ClusterDialogue (Except ReconcileError UInt64) :=
  match judge name space x with
  | .error e => .done (.error e)
  | .ok (v, events) =>
    .tellAll events <|
      (m.record space now v).thenTry fun _ => .done (.ok (v.requeue intervals))

/-- A pass over an application that has all it needs is a resolution and a report. -/
theorem reconcile_eq_bind_report (hs : m.metadata.space = some space)
    (ho : m.ownerReference? = some owner) :
    m.reconcile r intervals fresh now =
      ((m.toApplication.resolve r fresh).expand (StoreCall.perform owner)).bind
        (m.report intervals space owner.name now) := by
  rw [reconcile, hs, ho]
  rfl

/-- An owner is named as its application. -/
theorem name_of_ownerReference? (h : m.ownerReference? = some owner) :
    m.metadata.name = some owner.name := by
  obtain ⟨own, uid, hname, -, rfl⟩ := exists_of_ownerReference? h
  exact hname

/-- Whether a status can be sent does not depend on what it is.  It is only in the body, and no body
is a reason to fail. -/
theorem statusRequest_eq_error {fault : ClusterFault}
    (h : statusRequest space name status = .error fault) (status' : Status) :
    statusRequest space name status' = .error fault := by
  rw [statusRequest] at h ⊢
  split at h
  · rename_i hname
    rwa [if_pos hname]
  · rename_i hname
    rw [if_neg hname, Request.of]
    rw [Request.of] at h
    split at h
    · cases h
    · exact h

/-- A fault of the store is passed on. -/
theorem report_gives_of_fault {e : ReconcileError} (h : judge name space x = .error e) :
    (m.report intervals space name now x).Gives [] (.error e) := by
  rw [report, h]
  exact .refl _

/-- Of a verdict that the status tells already, nothing is written. -/
theorem report_gives_of_told (h : judge name space x = .ok (v, events))
    (hn : v.nextStatus m.toApplication.status now = none) :
    (m.report intervals space name now x).Gives [] (.ok (v.requeue intervals)) := by
  simp only [report, h, record, hn]
  exact gives_tellAll.mpr (.refl _)

/-- A status that cannot be sent is an error. -/
theorem report_gives_of_unwritable {fault : ClusterFault} (h : judge name space x = .ok (v, events))
    (hn : v.nextStatus m.toApplication.status now = some status)
    (hreq : statusRequest space (m.metadata.name.getD "") status = .error fault) :
    (m.report intervals space name now x).Gives [] (.error (.status fault)) := by
  simp only [report, h, record, hn, hreq, Request.send]
  exact gives_tellAll.mpr (.tell (.refl _))

/-- A status that is sent goes through when the object comes back. -/
theorem report_gives_of_written {request : Request} {reply : Reply} {m' : Manifest}
    (h : judge name space x = .ok (v, events))
    (hn : v.nextStatus m.toApplication.status now = some status)
    (hreq : statusRequest space (m.metadata.name.getD "") status = .ok request)
    (hreply : reply.read shape = .ok m') :
    (m.report intervals space name now x).Gives [⟨request, reply⟩] (.ok (v.requeue intervals)) := by
  simp only [report, h, record, hn, hreq, Request.send]
  refine gives_tellAll.mpr (.tell (.ask ?_))
  simp only [Dialogue.bind, hreply]
  exact .refl _

/-- A report of an outcome sends nothing, and ends in one way whatever the time. -/
def Told (m : Manifest) (intervals : Intervals) (space name : String)
    (x : Except ResolutionError Resolution) (y : Except ReconcileError UInt64) : Prop :=
  ∀ now, (m.report intervals space name now x).Gives [] y

/-- An outcome is told already or cannot be told at all, or else a status can be sent. -/
theorem exists_told_or_request (m : Manifest) (intervals : Intervals) (space name : String)
    (now : Timestamp) (x : Except ResolutionError Resolution) :
    (∃ y, m.Told intervals space name x y) ∨
    ∃ v events status request, judge name space x = .ok (v, events) ∧
      v.nextStatus m.toApplication.status now = some status ∧
      statusRequest space (m.metadata.name.getD "") status = .ok request := by
  cases hj : judge name space x with
  | error e => exact .inl ⟨_, fun _ => report_gives_of_fault hj⟩
  | ok verdict =>
    obtain ⟨v, events⟩ := verdict
    cases hn : v.nextStatus m.toApplication.status now with
    | none =>
      refine .inl ⟨_, fun now' => report_gives_of_told hj ?_⟩
      exact Verdict.nextStatus_eq_none_iff.mpr (Verdict.nextStatus_eq_none_iff.mp hn)
    | some status =>
      cases hreq : statusRequest space (m.metadata.name.getD "") status with
      | ok request => exact .inr ⟨v, events, status, request, rfl, hn, hreq⟩
      | error fault =>
        refine .inl ⟨.error (.status fault), fun now' => ?_⟩
        cases hn' : v.nextStatus m.toApplication.status now' with
        | none =>
          rw [Verdict.nextStatus_eq_none_iff.mpr (Verdict.nextStatus_eq_none_iff.mp hn')] at hn
          cases hn
        | some status' =>
          exact report_gives_of_unwritable hj hn' (statusRequest_eq_error hreq status')

end Manifest

end PipelinesOperator
