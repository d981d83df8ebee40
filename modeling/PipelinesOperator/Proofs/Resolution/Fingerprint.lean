import PipelinesOperator.Proofs.Json.Frame
import PipelinesOperator.Proofs.Resolution.Course
import PipelinesOperator.Reconcile.Verdict

/-!
# What the hash of a resolution depends on

Two resolutions of one plan differ in their secrets and in the origins of these.  The secrets do
not enter the text that is hashed, but the origins do: the text is the same exactly when both
credentials have the same origins, and then so is the hash.  Otherwise the hashes agree only if
the digest of two different texts does.

## Main definitions

* `Blake3.Collide`: two different texts with one digest
* `Resolution.SameOrigins`: both credentials of two resolutions have the same origins

## Main results

* `canonicalText_complete`: when two resolutions of a plan have one text
* `hash_complete`: when two resolutions of a plan have one hash
* `tells_status_iff`: the status of one hash tells another only if they are the same
-/

namespace PipelinesOperator

/-- Two different texts with one digest. -/
def Blake3.Collide (s t : String) : Prop := s ≠ t ∧ hexDigest s = hexDigest t

/-- Both credentials of two resolutions have the same origins. -/
structure Resolution.SameOrigins (x y : Resolution) : Prop where
  password : x.databasePassword.origin = y.databasePassword.origin
  keys : x.storageKeys.origin = y.storageKeys.origin

namespace Parameters

theorem originShape_write_inj {o o' : Origin} :
    originShape.write o = originShape.write o' ↔ o = o' := by
  cases o <;> cases o' <;> simp [originShape, Shape.write]

/-- Parameters have one hash when they have one text, and else only if the digest of their two texts
is the same. -/
theorem hash_inj {p q : Parameters} :
    p.hash = q.hash ↔
      p.canonicalText = q.canonicalText ∨ Blake3.Collide p.canonicalText q.canonicalText := by
  constructor
  · intro h
    by_cases ht : p.canonicalText = q.canonicalText
    · exact .inl ht
    · exact .inr ⟨ht, h⟩
  · rintro (h | ⟨-, h⟩)
    · exact congrArg Blake3.hexDigest h
    · exact h

/-- The origin of the password stands in the text. -/
theorem at?_passwordOrigin (p : Parameters) :
    (shape.write p).at? ["database", "connection", "passwordOrigin"] =
      some (originShape.write p.database.connection.passwordOrigin) := rfl

/-- The origin of the keys stands in the text. -/
theorem at?_keysOrigin (p : Parameters) :
    (shape.write p).at? ["objectStorage", "connection", "keysOrigin"] =
      some (originShape.write p.objectStorage.connection.keysOrigin) := rfl

end Parameters

namespace Plan

variable (p : Plan) (password keys password' keys' : Credential × Origin)

/-- The resolutions of a plan differ in texts alone. -/
theorem frame_complete :
    (Parameters.shape.write (p.complete password keys).parameters).frame =
      (Parameters.shape.write (p.complete password' keys').parameters).frame := by
  rfl

/-- Two resolutions of a plan have one text exactly when both credentials have the same origins.
One text is one document, in which the origins can be looked up. -/
theorem canonicalText_complete :
    (p.complete password keys).parameters.canonicalText =
        (p.complete password' keys').parameters.canonicalText ↔
      (p.complete password keys).SameOrigins (p.complete password' keys') := by
  rw [Parameters.canonicalText, Parameters.canonicalText,
    Json.canonicalText_inj (p.frame_complete password keys password' keys')]
  constructor
  · intro h
    have hat (path : List String) := congrArg (Json.at? · path) h
    simp only [Json.at?_canonical] at hat
    have hpassword := hat ["database", "connection", "passwordOrigin"]
    have hkeys := hat ["objectStorage", "connection", "keysOrigin"]
    rw [Parameters.at?_passwordOrigin, Parameters.at?_passwordOrigin] at hpassword
    rw [Parameters.at?_keysOrigin, Parameters.at?_keysOrigin] at hkeys
    exact ⟨Parameters.originShape_write_inj.mp (Option.some.inj hpassword),
      Parameters.originShape_write_inj.mp (Option.some.inj hkeys)⟩
  · rintro ⟨hpassword, hkeys⟩
    simp only [databasePassword_complete, storageKeys_complete] at hpassword hkeys
    simp only [complete, hpassword, hkeys]

/-- Two resolutions of a plan have one hash when both credentials have the same origins, and else
only if the digest of two different texts is the same. -/
theorem hash_complete :
    (p.complete password keys).parameters.hash = (p.complete password' keys').parameters.hash ↔
      (p.complete password keys).SameOrigins (p.complete password' keys') ∨
      Blake3.Collide (p.complete password keys).parameters.canonicalText
        (p.complete password' keys').parameters.canonicalText := by
  rw [← p.canonicalText_complete password keys password' keys', Parameters.hash_inj]

end Plan

/-- The status of one hash tells another only if they are the same. -/
theorem Verdict.tells_status_iff (hash hash' : String) (since now : Timestamp) :
    ((Verdict.resolved hash).status since now).tells (.resolved hash') ↔ hash = hash' := by
  simp [status, Status.tells, Status.resolution?, condition, Condition.tells, hash?, phase,
    conditionStatus, reason, message]

/-- A resolution that counts no credential as made has stored no secret. -/
theorem Resolution.createdSecrets_eq_nil_iff (x : Resolution) :
    x.parameters.createdSecrets = [] ↔ ∀ g ∈ x.established, g.origin ≠ .created := by
  simp only [Parameters.createdSecrets, List.append_eq_nil_iff, mem_established, forall_eq_or_imp,
    forall_eq, databasePassword, storageKeys]
  simp

end PipelinesOperator
