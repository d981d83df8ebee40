import PipelinesOperator.Proofs.Credential.Outline
import PipelinesOperator.Resolution.Debug

/-!
# Resolutions keep their secrets

A plan is made before any secret is looked at, and completed with two credentials of which only the
origins become parameters.  So resolutions that see secrets of the same outlines stay in step, and
what they end with differs in the contents of the two credentials only.  Neither the parameters,
which are written and hashed, nor the text that is shown has anything of these contents.

## Main definitions

* `Resolution.Like`: two resolutions that differ in the contents of their credentials only

## Main results

* `Resolution.Like.debugText_eq`: such resolutions are shown as the same text
* `resolve_inStep`: resolutions of one application stay in step
-/

namespace PipelinesOperator

open Dialogue

/-- Two resolutions that differ in the contents of their credentials only. -/
structure Resolution.Like (x x' : Resolution) : Prop where
  rest : x' = { x with password := x'.password, keys := x'.keys }
  password : x.password.outline = x'.password.outline
  keys : x.keys.outline = x'.keys.outline

namespace Resolution.Like

variable {x x' : Resolution}

theorem parameters_eq (h : x.Like x') : x'.parameters = x.parameters := by
  rw [h.rest]

/-- What a log shows of a resolution has nothing of its credentials but their outlines. -/
theorem debugText_eq (h : x.Like x') : x'.debugText = x.debugText := by
  have hpassword := Credential.redacted_eq h.password
  have hkeys := Credential.redacted_eq h.keys
  rw [h.rest]
  unfold debugText Parameters.Database.debugText Parameters.ObjectStorage.debugText
    Parameters.DatabaseConnection.debugText Parameters.StorageConnection.debugText
  rw [hpassword, hkeys]

end Resolution.Like

/-- A plan completed with credentials of the same outlines. -/
theorem Plan.complete_like (p : Plan) {password password' keys keys' : Credential × Origin}
    (hpassword : LikeCredentials password password') (hkeys : LikeCredentials keys keys') :
    (p.complete password keys).Like (p.complete password' keys') := by
  obtain ⟨password, origin⟩ := password
  obtain ⟨keys, keysOrigin⟩ := keys
  obtain ⟨hpassword, rfl⟩ := hpassword
  obtain ⟨hkeys, rfl⟩ := hkeys
  exact ⟨rfl, hpassword, hkeys⟩

/-- Resolutions of one application stay in step, whatever material each has at hand. -/
theorem Application.resolve_inStep (a : Application) (r : Registry) (fresh fresh' : Material) :
    InStep StoreCall.likeness (Except.Like Resolution.Like) (a.resolve r fresh)
      (a.resolve r fresh') := by
  rw [resolve, resolve]
  refine .tellAll _ ?_
  cases a.plan r with
  | error e => exact .done (.error _)
  | ok p =>
    refine (p.database.credentials.ensure_inStep fresh fresh').thenTry ?_
    intro password password' hpassword
    refine (p.objectStorage.credentials.ensure_inStep fresh fresh').thenTry ?_
    intro keys keys' hkeys
    exact .done (.ok (p.complete_like hpassword hkeys))

end PipelinesOperator
