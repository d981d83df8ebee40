import PipelinesOperator.Proofs.Application.Status
import PipelinesOperator.Reconcile.Basic

/-!
# Manifests with another status

A status that is laid over an object replaces the one that the object has, and nothing else of
what is read from it.  Nothing that a pass decides depends on the status, except whether one is
written; nor does the reference by which what an application owns points back to it.

## Main results

* `Manifest.exists_of_ownerReference?`: what an application is referred to by
* `Manifest.ofJson_mergePatch`: an object with a status laid over it is read as before, with the
  status
* `Manifest.resolve_withStatus`, `Manifest.plan_withStatus`: an application is resolved in one way
  with any status
-/

namespace PipelinesOperator.Manifest

open Shape

/-- A manifest with the status that an application has. -/
def withStatus (m : Manifest) (status : Option Status) : Manifest :=
  { m with status := status.map Status.toWire }

/-- An application is referred to by its name and its identity, as its controller. -/
theorem exists_of_ownerReference? {m : Manifest} {owner : OwnerReference}
    (h : m.ownerReference? = some owner) :
    ∃ own uid, m.metadata.name = some own ∧ m.metadata.uid = some uid ∧
      owner = ⟨apiVersion, none, some true, kind, own, uid⟩ := by
  rw [ownerReference?] at h
  obtain ⟨own, hname, h⟩ := Option.bind_eq_some_iff.mp h
  obtain ⟨uid, hid, h⟩ := Option.bind_eq_some_iff.mp h
  exact ⟨own, uid, hname, hid, (Option.some.inj h).symm⟩

section Equations

variable (m : Manifest) (status : Option Status) (r : Registry) (fresh : Material)

@[simp] theorem status_withStatus : (m.withStatus status).toApplication.status = status := by
  simp [withStatus, toApplication, Function.comp_def]

/-- A manifest with the status that it has already. -/
theorem withStatus_status : m.withStatus m.toApplication.status = m := by
  simp [withStatus, toApplication, Function.comp_def]

@[simp] theorem metadata_withStatus : (m.withStatus status).metadata = m.metadata := rfl

@[simp] theorem ownerReference?_withStatus :
    (m.withStatus status).ownerReference? = m.ownerReference? := rfl

@[simp] theorem plan_withStatus :
    (m.withStatus status).toApplication.plan r = m.toApplication.plan r := rfl

@[simp] theorem resolve_withStatus :
    (m.withStatus status).toApplication.resolve r fresh = m.toApplication.resolve r fresh := rfl

end Equations

variable {members : List (String × Json)} {m : Manifest}

/-- The status of an object that could be read, or that it has none, has no key twice. -/
theorem distinct_of_takes {old : Option Json} {status : Option (Status .wire)}
    (h : Takes statusField (.optional (Status.shape .wire)) old status) :
    Distinct Status.keys ((old.getD .null).members.map Prod.fst) := by
  cases old with
  | none => exact List.Pairwise.nil
  | some j =>
    cases j with
    | obj ms =>
      obtain ⟨t, ht, -⟩ := Except.map_eq_ok.mp (show (Shape.ofJson _ (.obj ms)).map some = _ from h)
      exact Status.distinct_of_ofJson ht
    | _ => exact List.Pairwise.nil

/-- An object with a status laid over it is read as before, with the status.  The patch speaks of
the status alone, so the other two fields stand as they did. -/
theorem ofJson_mergePatch (h : shape.ofJson (.obj members) = .ok m) (status : Status) :
    shape.ofJson ((Json.obj members).mergePatch
      (.obj [("status", (Status.shape .hub).write status)])) =
      .ok (m.withStatus (some status)) := by
  obtain ⟨hdistinct, ⟨metadata, spec, old, _⟩, ⟨hmetadata, hspec, hstatus, -⟩, rfl⟩ :=
    ofJson_struct_eq_ok.mp h
  have hnodup : ([("status", (Status.shape .hub).write status)].map Prod.fst).Nodup :=
    List.pairwise_singleton _ "status"
  have hlookup := Json.lookup_mergeMembers members hnodup
  refine ofJson_struct_eq_ok.mpr ⟨Json.distinct_mergeMembers hdistinct,
    (metadata, spec, some status.toWire, ()), ⟨?_, ?_, ?_, trivial⟩, rfl⟩
  · exact (congrArg (Takes _ Metadata.shape · metadata) (hlookup "metadata")).mpr hmetadata
  · exact (congrArg (Takes _ Spec.shape · spec) (hlookup "spec")).mpr hspec
  · refine (congrArg (Takes _ _ · _) (hlookup "status")).mpr ?_
    exact Except.map_eq_ok.mpr
      ⟨status.toWire, Status.ofJson_mergePatch (distinct_of_takes hstatus) status, rfl⟩

end PipelinesOperator.Manifest
