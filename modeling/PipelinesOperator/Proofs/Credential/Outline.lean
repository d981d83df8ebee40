import PipelinesOperator.Proofs.Credential.Course
import PipelinesOperator.Proofs.InStep

/-!
# What shows of secret material

The outline of a secret says which fields it has and which of them are empty, and the outline of a
credential says the same of its pieces.  Nothing that a pass over a credential does depends on
more than that: passes that see secrets of the same outline stay in step, each with fresh material
of its own, and end with the same error, or with credentials of the same outline from the same
origin.

## Main definitions

* `SecretFields.outline`, `Credential.outline`: what shows of secret material
* `StoreCall.likeness`: calls and answers that differ in the contents of fields only

## Main results

* `extract_like`: what is found in secrets of one outline
* `ensure_inStep`: passes over one credential stay in step
-/

namespace PipelinesOperator

open Dialogue

/-- The names of the fields of a secret, and which of them are empty. -/
def SecretFields.outline (fields : SecretFields) : Table Bool := fields.map List.isEmpty

/-- The pieces of a credential, and which of them are empty. -/
def Credential.outline (c : Credential) : Bool × Option Bool :=
  (c.primary.isEmpty, c.secondary.map List.isEmpty)

/-- A field shows in the outline of a secret. -/
theorem SecretFields.get?_outline (fields : SecretFields) (key : String) :
    fields.outline.get? key = (fields.get? key).map List.isEmpty :=
  lookup_map_snd key List.isEmpty fields.entries

/-- A log shows no more of a credential than its outline. -/
theorem Credential.redacted_eq {c c' : Credential} (h : c.outline = c'.outline) :
    c.redacted = c'.redacted := by
  obtain ⟨primary, secondary⟩ := c
  obtain ⟨primary', secondary'⟩ := c'
  obtain ⟨-, hsecondary⟩ := Prod.mk.inj h
  cases secondary with
  | none =>
    obtain rfl : secondary' = none := Option.map_eq_none_iff.mp hsecondary.symm
    rfl
  | some value =>
    obtain ⟨value', rfl, -⟩ := Option.map_eq_some_iff.mp hsecondary.symm
    rfl

/-- Fresh material always has one outline: nothing of it is empty. -/
theorem Material.outline_credential (m m' : Material) (kind : CredentialKind) :
    (m.credential kind).outline = (m'.credential kind).outline := by
  have hempty {l : List UInt8} (hl : l ≠ []) : l.isEmpty = false := List.isEmpty_eq_false_iff.mpr hl
  have hpieces (m : Material) : (m.credential kind).outline =
      (false, (m.credential kind).secondary.map fun _ => false) := by
    have hwhole := m.credential_whole kind
    refine Prod.ext (hempty hwhole.primary) ?_
    cases hs : (m.credential kind).secondary with
    | none => exact congrArg (Option.map List.isEmpty) hs
    | some value =>
      have hvalue : value ≠ [] := fun hnil => hwhole.secondary (by rw [hs, hnil])
      refine (congrArg (Option.map List.isEmpty) hs).trans ?_
      exact congrArg some (hempty hvalue)
  rw [hpieces m, hpieces m']
  cases kind with
  | databasePassword => rfl
  | storageKeys => rfl

namespace CredentialReference

variable {r : CredentialReference} {fields fields' : SecretFields} {c c' : Credential}

/-- A field that is read is not empty. -/
theorem field_like (h : fields.outline = fields'.outline) (key : String) :
    Except.Like (fun value value' : List UInt8 => value.isEmpty = value'.isEmpty)
      (r.field fields key) (r.field fields' key) := by
  have hkey : (fields.get? key).map List.isEmpty = (fields'.get? key).map List.isEmpty := by
    rw [← SecretFields.get?_outline, h, SecretFields.get?_outline]
  rw [field, field]
  cases hf : fields.get? key with
  | none =>
    rw [hf] at hkey
    rw [Option.map_eq_none_iff.mp hkey.symm]
    exact .error _
  | some value =>
    rw [hf] at hkey
    obtain ⟨value', hf', hvalue⟩ := Option.map_eq_some_iff.mp hkey.symm
    rw [hf']
    cases value with
    | nil =>
      obtain rfl : value' = [] := List.isEmpty_iff.mp hvalue
      exact .error _
    | cons b bs =>
      cases value' with
      | nil => cases hvalue
      | cons b' bs' => exact .ok rfl

/-- What is found in secrets of one outline has one outline, and what is missing is the same. -/
theorem extract_like (h : fields.outline = fields'.outline) :
    Except.Like (fun c c' : Credential => c.outline = c'.outline) (r.extract fields)
      (r.extract fields') := by
  rw [extract, extract]
  refine (field_like h r.primaryKey).bind fun primary primary' hprimary => ?_
  cases r.secondaryKey with
  | none => exact .ok (Prod.ext hprimary rfl)
  | some key =>
    refine (field_like h key).bind fun secondary secondary' hsecondary => ?_
    exact .ok (Prod.ext hprimary (congrArg some hsecondary))

/-- What is stored of credentials of one outline has one outline.  An outline keeps the keys and
which fields are empty, and insertion respects both. -/
theorem outline_toFields (h : c.outline = c'.outline) :
    (r.toFields c).outline = (r.toFields c').outline := by
  obtain ⟨hprimary, hsecondary⟩ := Prod.mk.inj h
  have hfirst : SecretFields.outline (Table.insert ∅ r.primaryKey c.primary) =
      SecretFields.outline (Table.insert ∅ r.primaryKey c'.primary) := by
    rw [SecretFields.outline, SecretFields.outline, Table.map_insert, Table.map_insert, hprimary]
  rw [toFields, toFields]
  cases r.secondaryKey with
  | none => exact hfirst
  | some key =>
    cases hs : c.secondary with
    | none =>
      rw [hs] at hsecondary
      rw [Option.map_eq_none_iff.mp hsecondary.symm]
      exact hfirst
    | some value =>
      rw [hs] at hsecondary
      obtain ⟨value', hs', hvalue⟩ := Option.map_eq_some_iff.mp hsecondary.symm
      rw [hs']
      simp only [SecretFields.outline, Table.map_insert] at hfirst ⊢
      rw [hfirst, hvalue]

end CredentialReference

/-! ## Calls in step -/

namespace StoreCall

/-- Calls that differ in the contents of fields only. -/
def Like : StoreCall → StoreCall → Prop
  | .get space name, .get space' name' => space = space' ∧ name = name'
  | .create space name fields, .create space' name' fields' =>
    space = space' ∧ name = name' ∧ fields.outline = fields'.outline
  | .get .., .create .. => False
  | .create .., .get .. => False

/-- Answers that differ in the contents of fields only. -/
def LikeAnswers : (q q' : StoreCall) → q.Answer → q'.Answer → Prop
  | .get .., .get .., a, a' => Except.Like
    (fun found found' => found.map SecretFields.outline = found'.map SecretFields.outline) a a'
  | .create .., .create .., a, a' => a = a'
  | .get .., .create .., _, _ => False
  | .create .., .get .., _, _ => False

/-- Calls and answers that differ in the contents of fields only. -/
def likeness : Likeness StoreCall StoreCall.Answer where
  question := Like
  answer {q q'} := LikeAnswers q q'

end StoreCall

/-- Credentials of one outline, from one origin. -/
def LikeCredentials (x x' : Credential × Origin) : Prop :=
  x.1.outline = x'.1.outline ∧ x.2 = x'.2

namespace CredentialReference

variable {r : CredentialReference}

theorem taken_like {fields fields' : SecretFields} (h : fields.outline = fields'.outline)
    (origin : Origin) :
    Except.Like LikeCredentials (r.taken fields origin) (r.taken fields' origin) := by
  refine ((extract_like h).mapError ResolutionError.configuration).map ?_
  exact fun c c' hc => ⟨hc, rfl⟩

theorem adopt_inStep (r : CredentialReference) :
    InStep StoreCall.likeness (Except.Like LikeCredentials) r.adopt r.adopt := by
  refine .ask ⟨rfl, rfl⟩ fun a a' h => ?_
  change Except.Like _ a a' at h
  cases h with
  | error fault => exact .done (.error _)
  | @ok found found' h =>
    cases found with
    | none =>
      obtain rfl : found' = none := Option.map_eq_none_iff.mp h.symm
      exact .done (.error _)
    | some fields =>
      obtain ⟨fields', rfl, hfields⟩ := Option.map_eq_some_iff.mp h.symm
      exact .done (taken_like hfields.symm .adopted)

theorem persist_inStep (r : CredentialReference) {c c' : Credential} (h : c.outline = c'.outline) :
    InStep StoreCall.likeness (Except.Like LikeCredentials) (r.persist c) (r.persist c') := by
  refine .ask ⟨rfl, rfl, outline_toFields h⟩ fun a a' ha => ?_
  obtain rfl : a = a' := ha
  rcases a with fault | (_ | _)
  · exact .done (.error _)
  · exact .tell _ (.done (.ok ⟨h, rfl⟩))
  · exact .tell _ r.adopt_inStep

/-- Passes over one credential stay in step, whatever material each has at hand. -/
theorem ensure_inStep (r : CredentialReference) (fresh fresh' : Material) :
    InStep StoreCall.likeness (Except.Like LikeCredentials) (r.ensure fresh) (r.ensure fresh') := by
  rw [ensure_eq, ensure_eq]
  refine .ask ⟨rfl, rfl⟩ fun a a' h => ?_
  change Except.Like _ a a' at h
  cases h with
  | error fault => exact .done (.error _)
  | @ok found found' h =>
    cases found with
    | none =>
      obtain rfl : found' = none := Option.map_eq_none_iff.mp h.symm
      cases r.ownership with
      | user => exact .done (.error _)
      | operator =>
        exact .tell _ (r.persist_inStep (fresh.outline_credential fresh' r.kind))
    | some fields =>
      obtain ⟨fields', rfl, hfields⟩ := Option.map_eq_some_iff.mp h.symm
      exact .done (taken_like hfields.symm .existing)

end CredentialReference

end PipelinesOperator
