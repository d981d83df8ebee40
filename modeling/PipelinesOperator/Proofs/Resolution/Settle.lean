import PipelinesOperator.Proofs.Credential.Vault
import PipelinesOperator.Proofs.Resolution.Course

/-!
# A resolution settles an application

A resolution against a truthful vault that nobody else writes to leaves the application settled:
every later resolution, whatever material it has at hand, ends in one way and makes nothing.  It
ends with the error of the first if that one failed, and else with what that one ended with, both
credentials being found this time.

## Main definitions

* `Application.Concerns`: where the plan of an application keeps its credentials
* `Application.Settled`: every resolution from now on ends in one way and makes nothing
* `Resolution.replayed`: a resolution as a later one returns it

## Main results

* `resolve_settles`: a resolution leaves its application settled
-/

namespace PipelinesOperator

open Dialogue

/-- A resolution as a later one returns it, which finds both credentials. -/
def Resolution.replayed (x : Resolution) : Resolution :=
  { x with
    parameters.database.connection.passwordOrigin := .existing
    parameters.objectStorage.connection.keysOrigin := .existing }

namespace Application

variable {σ ρ : Type} {v : Vault σ ρ} {a : Application} {r : Registry} {s : σ}

/-- A place where the plan of an application keeps a credential. -/
def Concerns (a : Application) (r : Registry) (space name : String) : Prop :=
  ∃ p ref, a.plan r = .ok p ∧ (ref = p.database.credentials ∨ ref = p.objectStorage.credentials) ∧
    ref.space = space ∧ ref.name = name

theorem concerns_database {p : Plan} (hp : a.plan r = .ok p) :
    a.Concerns r p.database.credentials.space p.database.credentials.name :=
  ⟨p, _, hp, .inl rfl, rfl, rfl⟩

theorem concerns_storage {p : Plan} (hp : a.plan r = .ok p) :
    a.Concerns r p.objectStorage.credentials.space p.objectStorage.credentials.name :=
  ⟨p, _, hp, .inr rfl, rfl, rfl⟩

/-- Every resolution of an application, in a state with the same secrets as a given one, ends in one
way and changes nothing. -/
def Settled (a : Application) (r : Registry) (v : Vault σ ρ) (s : σ)
    (x : Except ResolutionError Resolution) : Prop :=
  ∀ fresh s', v.SameSecrets (a.Concerns r) s s' → ∃ es s'', (a.resolve r fresh).Gives es x ∧
    Follows v.serve es s' s'' ∧ v.Alike (a.Concerns r) s' s'' ∧ ∀ e ∈ es, v.Harmless e.1

/-- An application with a mistake is settled. -/
theorem settled_of_mistake {e : Misconfiguration} (hp : a.plan r = .error e) :
    a.Settled r v s (.error (.configuration e)) := by
  intro fresh s' _
  exact ⟨[], s', (resolve_gives_of_mistake hp).mpr ⟨rfl, rfl⟩, rfl, .refl s', by simp⟩

/-- An application is settled with an error if its password is. -/
theorem settled_of_database_error {p : Plan} (hp : a.plan r = .ok p) {e : ResolutionError}
    (h : p.database.credentials.SettledOn v (a.Concerns r)
      (v.secret? s p.database.credentials.space p.database.credentials.name) (.error e)) :
    a.Settled r v s (.error e) := by
  intro fresh s' hs'
  obtain ⟨es, s'', hcourse, hfollows, halike, hharmless⟩ :=
    h fresh s' (hs' _ _ (concerns_database hp))
  exact ⟨es, s'', (resolve_gives_of_plan hp).mpr (.inl ⟨e, hcourse, rfl⟩), hfollows, halike,
    hharmless⟩

/-- An application whose password is settled is settled as its keys are.  The first credential
leaves the secret of the second as it was. -/
theorem settled_of_database_ok {p : Plan} (hp : a.plan r = .ok p) {password : Credential × Origin}
    {y : Except ResolutionError (Credential × Origin)}
    (h : p.database.credentials.SettledOn v (a.Concerns r)
      (v.secret? s p.database.credentials.space p.database.credentials.name) (.ok password))
    (h' : p.objectStorage.credentials.SettledOn v (a.Concerns r)
      (v.secret? s p.objectStorage.credentials.space p.objectStorage.credentials.name) y) :
    a.Settled r v s (y.map fun keys => p.complete password keys) := by
  intro fresh s' hs'
  obtain ⟨es₁, s₁, hcourse₁, hfollows₁, halike₁, hharmless₁⟩ :=
    h fresh s' (hs' _ _ (concerns_database hp))
  obtain ⟨es₂, s₂, hcourse₂, hfollows₂, halike₂, hharmless₂⟩ :=
    h' fresh s₁ (hs'.trans halike₁.secret _ _ (concerns_storage hp))
  refine ⟨es₁ ++ es₂, s₂, ?_, follows_append.mpr ⟨s₁, hfollows₁, hfollows₂⟩,
    halike₁.trans halike₂, ?_⟩
  · refine (resolve_gives_of_plan hp).mpr (.inr ⟨es₁, es₂, password, rfl, hcourse₁, ?_⟩)
    cases y with
    | error e => exact .inl ⟨e, hcourse₂, rfl⟩
    | ok keys => exact .inr ⟨keys, hcourse₂, rfl⟩
  · intro e he
    rcases List.mem_append.mp he with he | he
    · exact hharmless₁ e he
    · exact hharmless₂ e he

/-- A resolution leaves its application settled: later ones end as it did, except that they find
both credentials. -/
theorem resolve_settles (hv : v.Truthful (a.Concerns r)) (fresh : Material) (s : σ) :
    ∃ es x s', (a.resolve r fresh).Gives es x ∧ Follows v.serve es s s' ∧
      v.Keeps (a.Concerns r) s s' ∧ a.Settled r v s' (x.map Resolution.replayed) := by
  cases hp : a.plan r with
  | error e =>
    exact ⟨[], _, s, (resolve_gives_of_mistake hp).mpr ⟨rfl, rfl⟩, rfl, (Vault.Alike.refl s).keeps,
      settled_of_mistake hp⟩
  | ok p =>
    obtain ⟨es₁, x₁, s₁, hcourse₁, hfollows₁, ⟨e, rfl, halike, hsettled⟩ |
      ⟨c, o, fields, rfl, hkeeps₁, hheld, hsettled⟩⟩ := CredentialReference.ensure_settles hv
        (plan_database_sound hp) (concerns_database hp) fresh s
    · refine ⟨es₁, _, s₁, (resolve_gives_of_plan hp).mpr (.inl ⟨e, hcourse₁, rfl⟩), hfollows₁,
        halike.keeps, settled_of_database_error hp ?_⟩
      rwa [halike.secret _ _ (concerns_database hp)]
    · -- the password is settled
      obtain ⟨es₂, x₂, s₂, hcourse₂, hfollows₂, ⟨e, rfl, halike, hsettled'⟩ |
        ⟨c', o', fields', rfl, hkeeps₂, hheld', hsettled'⟩⟩ := CredentialReference.ensure_settles hv
          (plan_storage_sound hp) (concerns_storage hp) fresh s₁
      · rw [← hheld, ← halike.secret _ _ (concerns_database hp)] at hsettled
        rw [← halike.secret _ _ (concerns_storage hp)] at hsettled'
        exact ⟨es₁ ++ es₂, _, s₂, (resolve_gives_of_plan hp).mpr (.inr ⟨es₁, es₂, _, rfl, hcourse₁,
          .inl ⟨e, hcourse₂, rfl⟩⟩), follows_append.mpr ⟨s₁, hfollows₁, hfollows₂⟩,
          hkeeps₁.trans halike.keeps, settled_of_database_ok hp hsettled hsettled'⟩
      · rw [← hkeeps₂.secret _ _ _ (concerns_database hp) hheld] at hsettled
        rw [← hheld'] at hsettled'
        exact ⟨es₁ ++ es₂, _, s₂, (resolve_gives_of_plan hp).mpr (.inr ⟨es₁, es₂, _, rfl, hcourse₁,
          .inr ⟨_, hcourse₂, rfl⟩⟩), follows_append.mpr ⟨s₁, hfollows₁, hfollows₂⟩,
          hkeeps₁.trans hkeeps₂, settled_of_database_ok hp hsettled hsettled'⟩

end Application

end PipelinesOperator
