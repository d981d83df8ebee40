import PipelinesOperator.Application.Manifest
import PipelinesOperator.Proofs.Shape.RoundTrip

/-!
# Specs and statuses round-trip

The blocks of an application leave nothing out when they are written, on either face: a member is
hidden only when it has no value, or when it is the list of no conditions, and that is what its
absence reads as.  So a spec and a status come back from what is written of them, whatever is in
them, and rewriting a document of a user brings it to its final form.

## Main results

* `Face.hidesAbsent_optional`, `Face.hidesAbsent_defaulted`: the members of a block
* `ApiServer.lossless`, `Manifest.Spec.lossless`, `Status.lossless`: the blocks
* `Manifest.wire_format_round_trips`: specs and statuses come back from documents and texts
-/

namespace PipelinesOperator

open Shape

/-! ## Members -/

section Members

variable {α : Type} (face : Face) (wire hub : String) (note : Option String)

@[simp] theorem Face.hidesAbsent_optional :
    (face.optional wire hub note : Field (Option α)).HidesAbsent := by
  cases face with
  | wire => exact Field.hidesAbsent_optional wire note
  | hub => exact Field.hidesAbsent_nullable hub none

@[simp] theorem Face.hidesAbsent_defaulted (value : α) :
    (face.defaulted wire hub value note).HidesAbsent := by
  cases face with
  | wire => exact Field.hidesAbsent_defaulted wire note value
  | hub => exact Field.hidesAbsent_required hub none

@[simp] theorem Face.hidesAbsent_required :
    (face.required wire hub note : Field α).HidesAbsent := by
  cases face with
  | wire => exact Field.hidesAbsent_required wire note
  | hub => exact Field.hidesAbsent_required hub none

@[simp] theorem Face.hidesAbsent_resources : (face.resources note).HidesAbsent :=
  face.hidesAbsent_optional "resources" "resources" note

@[simp] theorem Face.hidesAbsent_deploy : (face.deploy note).HidesAbsent :=
  face.hidesAbsent_defaulted "deploy" "deploy" note true

/-- The list of conditions is hidden when it is empty, and an absent one is. -/
@[simp] theorem Status.hidesAbsent_conditionsField : (conditionsField face).HidesAbsent := by
  cases face with
  | wire => exact fun _ h => congrArg some (List.isEmpty_iff.mp h).symm
  | hub => exact Field.hidesAbsent_required "conditions" none

end Members

/-! ## Blocks -/

section Blocks

variable (face : Face)

@[simp] theorem SecretKey.lossless :
    (SecretKey.shape face).NeverNull ∧ (SecretKey.shape face).Lossless := by
  refine ⟨trivial, by decide, ?_⟩
  simp

@[simp] theorem SecretKeyPair.lossless :
    (SecretKeyPair.shape face).NeverNull ∧ (SecretKeyPair.shape face).Lossless := by
  refine ⟨trivial, by decide, ?_⟩
  simp

@[simp] theorem Resources.lossless :
    (Resources.shape face).NeverNull ∧ (Resources.shape face).Lossless := by
  refine ⟨trivial, by decide, ?_⟩
  simp

@[simp] theorem Requirements.lossless :
    (Requirements.shape face).NeverNull ∧ (Requirements.shape face).Lossless := by
  refine ⟨trivial, by simp [Fields.keys, Field.optional], ?_⟩
  simp

@[simp] theorem ScriptConfigMap.lossless :
    (ScriptConfigMap.shape face).NeverNull ∧ (ScriptConfigMap.shape face).Lossless := by
  refine ⟨trivial, by cases face <;> decide, ?_⟩
  simp

@[simp] theorem ApiServer.lossless :
    (ApiServer.shape face).NeverNull ∧ (ApiServer.shape face).Lossless := by
  refine ⟨trivial, by cases face <;> decide, ?_⟩
  simp

@[simp] theorem PersistenceAgent.lossless :
    (PersistenceAgent.shape face).NeverNull ∧ (PersistenceAgent.shape face).Lossless := by
  refine ⟨trivial, by cases face <;> decide, ?_⟩
  simp

@[simp] theorem ScheduledWorkflow.lossless :
    (ScheduledWorkflow.shape face).NeverNull ∧ (ScheduledWorkflow.shape face).Lossless := by
  refine ⟨trivial, by cases face <;> decide, ?_⟩
  simp

@[simp] theorem UserInterface.lossless :
    (UserInterface.shape face).NeverNull ∧ (UserInterface.shape face).Lossless := by
  refine ⟨trivial, by cases face <;> decide, ?_⟩
  simp

@[simp] theorem MariaDb.lossless :
    (MariaDb.shape face).NeverNull ∧ (MariaDb.shape face).Lossless := by
  refine ⟨trivial, by cases face <;> decide, ?_⟩
  simp

@[simp] theorem ExternalDatabase.lossless :
    (ExternalDatabase.shape face).NeverNull ∧ (ExternalDatabase.shape face).Lossless := by
  refine ⟨trivial, by cases face <;> decide, ?_⟩
  simp

@[simp] theorem Minio.lossless : (Minio.shape face).NeverNull ∧ (Minio.shape face).Lossless := by
  refine ⟨trivial, by cases face <;> decide, ?_⟩
  simp

@[simp] theorem ExternalStorage.lossless :
    (ExternalStorage.shape face).NeverNull ∧ (ExternalStorage.shape face).Lossless := by
  refine ⟨trivial, by cases face <;> decide, ?_⟩
  simp

@[simp] theorem MlmdPart.lossless :
    (MlmdPart.shape face).NeverNull ∧ (MlmdPart.shape face).Lossless := by
  refine ⟨trivial, by cases face <;> decide, ?_⟩
  simp

@[simp] theorem MlmdGrpc.lossless :
    (MlmdGrpc.shape face).NeverNull ∧ (MlmdGrpc.shape face).Lossless := by
  refine ⟨trivial, by cases face <;> decide, ?_⟩
  simp

@[simp] theorem Mlmd.lossless : (Mlmd.shape face).NeverNull ∧ (Mlmd.shape face).Lossless := by
  refine ⟨trivial, by cases face <;> decide, ?_⟩
  simp

@[simp] theorem ImageOnly.lossless :
    (ImageOnly.shape face).NeverNull ∧ (ImageOnly.shape face).Lossless := by
  refine ⟨trivial, by cases face <;> decide, ?_⟩
  simp

@[simp] theorem Condition.lossless :
    (Condition.shape face).NeverNull ∧ (Condition.shape face).Lossless := by
  refine ⟨trivial, by cases face <;> decide, ?_⟩
  simp

@[simp] theorem Status.lossless :
    (Status.shape face).NeverNull ∧ (Status.shape face).Lossless := by
  refine ⟨trivial, by cases face <;> decide, ?_⟩
  simp

end Blocks

namespace Manifest

@[simp] theorem Database.lossless : Database.shape.NeverNull ∧ Database.shape.Lossless := by
  refine ⟨trivial, by decide, ?_⟩
  simp

@[simp] theorem ObjectStorage.lossless :
    ObjectStorage.shape.NeverNull ∧ ObjectStorage.shape.Lossless := by
  refine ⟨trivial, by decide, ?_⟩
  simp

@[simp] theorem Spec.lossless : Spec.shape.NeverNull ∧ Spec.shape.Lossless := by
  refine ⟨trivial, by decide, ?_⟩
  simp

/-- Every spec and every status on the wire comes back from what is written of it, and to read and
write a document once more changes nothing. -/
theorem wire_format_round_trips : Spec.shape.RoundTrips ∧ (Status.shape .wire).RoundTrips :=
  ⟨roundTrips_of_lossless Spec.lossless.2 (by decide),
    roundTrips_of_lossless (Status.lossless .wire).2 (by decide)⟩

/-- In a rewritten status the phase is told, a member of no field is dropped, and the time is told in
one way. -/
theorem wire_format_round_trips_offset :
    let j := Json.obj [("lastUpdated", .str "2025-1-1 01:00:00.5+01:00"), ("observed", .bool true)]
    let j' := Json.obj [("phase", .str ""), ("lastUpdated", .str "2025-01-01T00:00:00.500Z")]
    (Status.shape .wire).rewrite j = .ok j' ∧
    (Status.shape .wire).ofJson j' = (Status.shape .wire).ofJson j ∧
    (Status.shape .wire).rewrite j' = .ok j' := by
  intro j j'
  have h : (Status.shape .wire).rewrite j = .ok j' := rfl
  exact ⟨h, wire_format_round_trips.2.rewritten j j' h⟩

end Manifest

end PipelinesOperator
