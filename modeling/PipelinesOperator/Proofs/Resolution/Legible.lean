import PipelinesOperator.Proofs.Application.RoundTrip
import PipelinesOperator.Proofs.Resolution.Fingerprint
import PipelinesOperator.Proofs.Shape.Canonical

/-!
# The hashed text tells the parameters

The blocks of the parameters leave nothing out when they are written: a member that may be missing
is written as `null`, or left out only if it is missing.  So the parameters can be read again from
the text that is hashed, and two resolutions have one text only if they agree on everything but the
family of their images and the secret material, which the parameters do not hold.  Their hashes
agree in no other case, unless the digest of two different texts does.

## Main definitions

* `Resolution.Alike`: two resolutions differ at most in their family and in their credentials

## Main results

* `Shape.canonicalText_write_inj`: no two values of a lossless shape have one canonical text
* `Parameters.lossless`: parameters are written in full
* `Resolution.fingerprint_iff`: when two resolutions have one text, and when one hash
-/

namespace PipelinesOperator

/-! ## Canonical texts -/

namespace Shape

variable {α : Type} {shape : Shape α}

/-- From the canonical text of a document in a lossless shape the value is read that was written.
The members are sorted, which does not matter to a reader that looks for them by their keys. -/
theorem read_canonicalText_write (h : shape.Lossless) (hdepth : shape.depth ≤ JsonText.maxDepth)
    (a : α) : JsonText.read shape (shape.write a).canonicalText.toList = .ok a := by
  have hplain : (shape.write a).canonical.Plain JsonText.maxDepth :=
    ((plain_write h a).mono hdepth).canonical
  have hread : shape.ofJson (shape.write a).canonical = .ok a :=
    ofJson_canonical (ofJson_write shape (keeps_of_lossless h a))
  rw [Json.canonicalText, Json.text, String.toList_ofList]
  exact (JsonText.read_compact hplain shape a).mpr hread

/-- No two values of a lossless shape have one canonical text. -/
theorem canonicalText_write_inj (h : shape.Lossless) (hdepth : shape.depth ≤ JsonText.maxDepth)
    {a b : α} : (shape.write a).canonicalText = (shape.write b).canonicalText ↔ a = b := by
  constructor
  · intro htext
    have ha := read_canonicalText_write h hdepth a
    rw [htext, read_canonicalText_write h hdepth b] at ha
    exact (Except.ok.inj ha).symm
  · rintro rfl
    rfl

end Shape

/-! ## Blocks -/

namespace CredentialReference

@[simp] theorem lossless_ownership : ownershipShape.Lossless := trivial

@[simp] theorem lossless_kind : kindShape.Lossless := trivial

@[simp] theorem lossless : shape.Lossless := by
  refine ⟨by decide, ?_⟩
  simp

end CredentialReference

namespace Parameters

@[simp] theorem hidesAbsent_field {α : Type} (key : String) : (field key : Field α).HidesAbsent :=
  Field.hidesAbsent_required key none

@[simp] theorem lossless_origin : originShape.Lossless := trivial

@[simp] theorem ApiServer.lossless : ApiServer.shape.Lossless := by
  refine ⟨by decide, ?_⟩
  simp

@[simp] theorem PersistenceAgent.lossless : PersistenceAgent.shape.Lossless := by
  refine ⟨by decide, ?_⟩
  simp

@[simp] theorem ScheduledWorkflow.lossless : ScheduledWorkflow.shape.Lossless := by
  refine ⟨by decide, ?_⟩
  simp

@[simp] theorem UserInterface.lossless :
    UserInterface.shape.NeverNull ∧ UserInterface.shape.Lossless := by
  refine ⟨trivial, by decide, ?_⟩
  simp

@[simp] theorem MlmdPart.lossless : MlmdPart.shape.Lossless := by
  refine ⟨by decide, ?_⟩
  simp

@[simp] theorem MlmdGrpc.lossless : MlmdGrpc.shape.Lossless := by
  refine ⟨by decide, ?_⟩
  simp

@[simp] theorem Mlmd.lossless : Mlmd.shape.NeverNull ∧ Mlmd.shape.Lossless := by
  refine ⟨trivial, by decide, ?_⟩
  simp

@[simp] theorem ImageOnly.lossless : ImageOnly.shape.Lossless := by
  refine ⟨by decide, ?_⟩
  simp

@[simp] theorem MariaDb.lossless : MariaDb.shape.NeverNull ∧ MariaDb.shape.Lossless := by
  refine ⟨trivial, by decide, ?_⟩
  simp

@[simp] theorem DatabaseConnection.lossless : DatabaseConnection.shape.Lossless := by
  refine ⟨by decide, ?_⟩
  simp

@[simp] theorem Database.lossless : Database.shape.Lossless := by
  refine ⟨by decide, ?_⟩
  simp

@[simp] theorem Minio.lossless : Minio.shape.NeverNull ∧ Minio.shape.Lossless := by
  refine ⟨trivial, by decide, ?_⟩
  simp

@[simp] theorem StorageConnection.lossless : StorageConnection.shape.Lossless := by
  refine ⟨by decide, ?_⟩
  simp

@[simp] theorem ObjectStorage.lossless : ObjectStorage.shape.Lossless := by
  refine ⟨by decide, ?_⟩
  simp

/-- Parameters are written in full. -/
theorem lossless : shape.Lossless := by
  refine ⟨by decide, ?_⟩
  simp

/-- No two parameters are hashed as one text. -/
theorem canonicalText_inj {p q : Parameters} : p.canonicalText = q.canonicalText ↔ p = q :=
  Shape.canonicalText_write_inj lossless (by decide)

end Parameters

/-! ## Resolutions -/

/-- Two resolutions differ at most in the family of their images, in the password of the database
and in the keys of object storage. -/
def Resolution.Alike (x y : Resolution) : Prop :=
  { x with family := y.family, password := y.password, keys := y.keys } = y

namespace Resolution

variable (x y : Resolution)

theorem alike_iff : x.Alike y ↔ x.parameters = y.parameters := by
  obtain ⟨p, family, password, keys⟩ := y
  simp [Alike]

/-- Two resolutions have one text exactly when they are alike, and otherwise they have one hash only
if the digest of their two texts is the same. -/
theorem fingerprint_iff :
    (x.parameters.canonicalText = y.parameters.canonicalText ↔ x.Alike y) ∧
    (x.parameters.hash = y.parameters.hash ↔
      x.Alike y ∨ Blake3.Collide x.parameters.canonicalText y.parameters.canonicalText) := by
  have htext : x.parameters.canonicalText = y.parameters.canonicalText ↔ x.Alike y :=
    Parameters.canonicalText_inj.trans (alike_iff x y).symm
  exact ⟨htext, Parameters.hash_inj.trans (or_congr_left htext)⟩

end Resolution

end PipelinesOperator
