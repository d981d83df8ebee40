import PipelinesOperator.Proofs.Credential.Course
import PipelinesOperator.Proofs.Race.Play

/-!
# How a pass over a credential of the operator fails

Two failures are to be expected of a pass over a secret that the operator answers for: a fault of
the store, which passes, and a blank field in a secret that was read, which the user has to mend.
On one course the pass fails otherwise.  If somebody else's secret is in the way of its own, and is
gone again when it is to be read back, the user is blamed for a secret that was never asked of
them; and trying again would simply make it.

## Main definitions

* `CredentialReference.Blank`: a field that a reference names has nothing in it
* `CredentialReference.Accountable`: the failures that are to be expected, with what shows them
* `CredentialReference.vanishing`: the one course on which there is another failure

## Main results

* `extract_eq_error`: a credential is not found only for a blank field
* `ensure_accountable_iff`: a failure is accounted for on every course but one
* `user_blamed_for_vanished_secret`: on that course the user is blamed
-/

namespace PipelinesOperator

open Dialogue

namespace CredentialReference

variable {r : CredentialReference} {fresh : Material} {es : List StoreExchange}
  {fields : SecretFields} {key : String} {mistake : Misconfiguration} {e : ResolutionError}

/-- A field that the reference names is missing in the secret, or empty. -/
structure Blank (r : CredentialReference) (fields : SecretFields) (key : String) : Prop where
  named : key = r.primaryKey ∨ r.secondaryKey = some key
  empty : ∀ value, fields.get? key = some value → value = []

theorem field_eq_error (h : r.field fields key = .error mistake) :
    mistake = .emptySecretField r.name key ∧
      ∀ value, fields.get? key = some value → value = [] := by
  rw [field] at h
  split at h
  · cases h
  · rename_i hempty
    refine ⟨(Except.error.inj h).symm, fun value hvalue => ?_⟩
    cases value with
    | nil => rfl
    | cons b bs => exact absurd hvalue (hempty b bs)

/-- A credential is not found in a secret only if one of its fields is blank, and the mistake is
named after that one.  The primary key is read first, so its fault hides the other's. -/
theorem extract_eq_error (h : r.extract fields = .error mistake) :
    ∃ key, r.Blank fields key ∧ mistake = .emptySecretField r.name key := by
  rw [extract] at h
  cases hprimary : r.field fields r.primaryKey with
  | error primary =>
    rw [hprimary] at h
    obtain rfl : primary = mistake := Except.error.inj h
    obtain ⟨hmistake, hempty⟩ := field_eq_error hprimary
    exact ⟨_, ⟨.inl rfl, hempty⟩, hmistake⟩
  | ok value =>
    rw [hprimary] at h
    cases hkey : r.secondaryKey with
    | none =>
      rw [hkey] at h
      cases h
    | some key =>
      rw [hkey] at h
      cases hsecondary : r.field fields key with
      | ok value' =>
        simp only [hsecondary] at h
        cases h
      | error secondary =>
        simp only [hsecondary] at h
        obtain rfl : secondary = mistake := Except.error.inj h
        obtain ⟨hmistake, hempty⟩ := field_eq_error hsecondary
        exact ⟨key, ⟨.inr hkey, hempty⟩, hmistake⟩

/-- The failures that are to be expected of a secret that the operator answers for: a fault of the
store, which was the last answer, and a blank field of a secret, which was the last answer. -/
inductive Accountable (r : CredentialReference) : List StoreExchange → ResolutionError → Prop where
  | store (es : List StoreExchange) (call : StoreCall) (fault : ClusterFault) :
      Accountable r (es ++ [⟨call, call.failure fault⟩]) (.store fault)
  | blank (es : List StoreExchange) {fields : SecretFields} {key : String}
      (blank : r.Blank fields key) : Accountable r (es ++ [⟨r.fetch, .ok (some fields)⟩])
        (.configuration (.emptySecretField r.name key))

/-- The course on which a secret is in the way of the operator's own, and then gone again. -/
def vanishing (r : CredentialReference) (fresh : Material) : List StoreExchange :=
  [⟨r.fetch, .ok none⟩, ⟨r.deposit fresh, .ok .alreadyExists⟩, ⟨r.fetch, .ok none⟩]

/-- A secret that was the last thing read, and holds no credential, accounts for the failure. -/
theorem accountable_of_taken {origin : Origin} (es : List StoreExchange)
    (h : r.taken fields origin = .error e) :
    r.Accountable (es ++ [⟨r.fetch, .ok (some fields)⟩]) e := by
  cases hx : r.extract fields with
  | ok c =>
    rw [taken, hx] at h
    cases h
  | error mistake =>
    rw [taken, hx] at h
    obtain ⟨key, hblank, rfl⟩ := extract_eq_error hx
    obtain rfl : .configuration (.emptySecretField r.name key) = e := Except.error.inj h
    exact .blank es hblank

/-- On the course of a vanishing secret no answer accounts for anything. -/
theorem not_accountable_vanishing : ¬r.Accountable (r.vanishing fresh) e := by
  intro h
  generalize hes : r.vanishing fresh = es at h
  have hlast : es.getLast? = some ⟨r.fetch, .ok none⟩ := by
    rw [← hes]
    rfl
  cases h with
  | store es call fault =>
    rw [List.getLast?_concat, Option.some.injEq] at hlast
    obtain ⟨rfl, ha⟩ := Sigma.mk.inj hlast
    cases ha
  | blank es blank =>
    rw [List.getLast?_concat, Option.some.injEq] at hlast
    obtain ⟨-, ha⟩ := Sigma.mk.inj hlast
    cases ha

/-- A pass over a secret of the operator fails by something to be expected, or because the secret
vanished. -/
theorem Course.accountable_or_vanishing (ho : r.ownership = .operator)
    (h : r.Course fresh es (.error e)) : r.Accountable es e ∨
      es = r.vanishing fresh ∧ e = .configuration (.secretNotFound r.name) := by
  generalize hx : Except.error e = x at h
  cases h with
  | unread fault =>
    obtain rfl : e = .store fault := Except.error.inj hx
    exact .inl (.store [] r.fetch fault)
  | read fields => exact .inl (accountable_of_taken [] hx.symm)
  | missing ho' =>
    rw [ho] at ho'
    cases ho'
  | unstored ho' fault =>
    obtain rfl : e = .store fault := Except.error.inj hx
    exact .inl (.store [_] (r.deposit fresh) fault)
  | created ho' => cases hx
  | unadopted ho' fault =>
    obtain rfl : e = .store fault := Except.error.inj hx
    exact .inl (.store [_, _] r.fetch fault)
  | vanished ho' => exact .inr ⟨rfl, Except.error.inj hx⟩
  | adopted ho' fields => exact .inl (accountable_of_taken [_, _] hx.symm)

/-- Whatever the store answers, the failure of a pass over a secret of the operator is accounted
for by the last answer exactly when the secret did not vanish.  It may vanish, and then and only
then the user is blamed for a secret that does not exist. -/
theorem ensure_accountable_iff (fresh : Material) (ho : r.ownership = .operator) :
    (r.ensure fresh).Gives (r.vanishing fresh) (.error (.configuration (.secretNotFound r.name))) ∧
    ∀ es e, (r.ensure fresh).Gives es (.error e) →
      (r.Accountable es e ↔ es ≠ r.vanishing fresh) ∧
      ((∃ name, e = .configuration (.secretNotFound name)) ↔ es = r.vanishing fresh) := by
  refine ⟨ensure_gives_iff.mpr (.vanished ho), fun es e h => ?_⟩
  rcases (ensure_gives_iff.mp h).accountable_or_vanishing ho with haccount | ⟨rfl, rfl⟩
  · have hne : es ≠ r.vanishing fresh := by
      rintro rfl
      exact not_accountable_vanishing haccount
    refine ⟨iff_of_true haccount hne, iff_of_false ?_ hne⟩
    rintro ⟨name, rfl⟩
    cases haccount
  · exact ⟨iff_of_false not_accountable_vanishing (not_not_intro rfl), iff_of_true ⟨_, rfl⟩ rfl⟩

/-! ## A password that vanishes -/

/-- A plain application keeps its password in a secret of the operator. -/
def operatorPassword : CredentialReference := .database "pipelines" "sample" none

/-- A secret with an empty password accounts for the failure. -/
theorem ensure_accountable_iff_blank :
    let fresh := Material.repeating 0
    let es : List StoreExchange :=
      [⟨operatorPassword.fetch, .ok (some ((∅ : SecretFields).insert "password" []))⟩]
    let e := ResolutionError.configuration (.emptySecretField "ds-pipeline-db-sample" "password")
    operatorPassword.ownership = .operator ∧
    (operatorPassword.ensure fresh).Gives es (.error e) ∧
    (operatorPassword.ensure fresh).Gives (operatorPassword.vanishing fresh)
      (.error (.configuration (.secretNotFound "ds-pipeline-db-sample"))) ∧
    (operatorPassword.Accountable es e ↔ es ≠ operatorPassword.vanishing fresh) ∧
    ((∃ name, e = .configuration (.secretNotFound name)) ↔
      es = operatorPassword.vanishing fresh) := by
  intro fresh es e
  have hgives : (operatorPassword.ensure fresh).Gives es (.error e) :=
    ensure_gives_iff.mpr (.read _)
  obtain ⟨hvanishing, h⟩ := ensure_accountable_iff (r := operatorPassword) fresh rfl
  exact ⟨rfl, hgives, hvanishing, h es e hgives⟩

/-- Between two calls a secret may come and go.  The pass ends with a mistake of the user's, which
trying again is said not to mend; but the secret was the operator's, no field of it was read, and
the next pass just makes it. -/
theorem user_blamed_for_vanished_secret :
    let fresh := Material.repeating 0
    let e := ResolutionError.configuration (.secretNotFound "ds-pipeline-db-sample")
    operatorPassword.ownership = .operator ∧
    (operatorPassword.ensure fresh).Gives
      [⟨.get "pipelines" "ds-pipeline-db-sample", .ok none⟩,
        ⟨operatorPassword.deposit fresh, .ok .alreadyExists⟩,
        ⟨.get "pipelines" "ds-pipeline-db-sample", .ok none⟩] (.error e) ∧
    e.isRetryable = false ∧
    (∀ key, e ≠ .configuration (.emptySecretField "ds-pipeline-db-sample" key)) ∧
    (operatorPassword.ensure fresh).Gives
      [⟨.get "pipelines" "ds-pipeline-db-sample", .ok none⟩,
        ⟨operatorPassword.deposit fresh, .ok .created⟩]
      (.ok (⟨List.replicate 12 97, none⟩, .created)) := by
  refine ⟨rfl, ensure_gives_iff.mpr (.vanished rfl), rfl, ?_, ensure_gives_iff.mpr (.created rfl)⟩
  rintro key ⟨⟩

end CredentialReference

end PipelinesOperator
