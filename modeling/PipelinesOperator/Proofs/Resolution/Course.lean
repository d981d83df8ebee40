import PipelinesOperator.Proofs.Credential.Course
import PipelinesOperator.Proofs.Resolution.Plan
import PipelinesOperator.Resolution.Basic

/-!
# The courses of a resolution

A resolution makes its plan without a question, and then follows a course over the password of
the database and behind it one over the keys of object storage.  What it ends with names both
credentials, each with where it is kept and where it comes from.

## Main definitions

* `Established`: a credential in use, with where it is kept and where it comes from
* `Resolution.established`: the two credentials of a resolution
* `Established.StandsIn`: a credential stands in a store where its reference says

## Main results

* `resolve_gives_of_plan`: the courses of a resolution whose plan is made
* `resolve_gives_ok_iff`: a resolution is its plan and a course over each credential
* `call_eq_of_resolve_gives`, `length_le_of_resolve_gives`: which calls a resolution makes, and how
  many
* `exists_course_of_established`: each credential of a resolution has a course of its own
* `of_resolve_asks_create`: what a resolution deposits
-/

namespace PipelinesOperator

open Dialogue

/-- A credential in use, with where it is kept and where it comes from. -/
structure Established where
  reference : CredentialReference
  credential : Credential
  origin : Origin
  deriving DecidableEq, Repr

/-- A credential stands in a store where its reference says. -/
def Established.StandsIn (g : Established) (s : SecretStore) : Prop :=
  ∃ fields, s.get? g.reference.space g.reference.name = some fields ∧
    g.reference.Holds fields g.credential

theorem Established.StandsIn.mono {g : Established} {s s' : SecretStore} (h : g.StandsIn s)
    (hs : s.Grows s') : g.StandsIn s' := by
  obtain ⟨fields, hget, hholds⟩ := h
  exact ⟨fields, hs _ _ _ hget, hholds⟩

/-- In one store, credentials that are kept in the same place are the same. -/
theorem Established.StandsIn.unique {g g' : Established} {s : SecretStore} (h : g.StandsIn s)
    (h' : g'.StandsIn s) (hspace : g.reference.space = g'.reference.space)
    (hname : g.reference.name = g'.reference.name)
    (hprimary : g.reference.primaryKey = g'.reference.primaryKey)
    (hsecondary : g.reference.secondaryKey = g'.reference.secondaryKey) :
    g.credential = g'.credential := by
  obtain ⟨fields, hget, hholds⟩ := h
  obtain ⟨fields', hget', hholds'⟩ := h'
  rw [← hspace, ← hname, hget] at hget'
  obtain rfl := Option.some.inj hget'
  exact hholds.unique hholds' hprimary hsecondary

namespace Resolution

/-- The password of the database. -/
def databasePassword (x : Resolution) : Established :=
  ⟨x.parameters.database.connection.credentials, x.password,
    x.parameters.database.connection.passwordOrigin⟩

/-- The keys of object storage. -/
def storageKeys (x : Resolution) : Established :=
  ⟨x.parameters.objectStorage.connection.credentials, x.keys,
    x.parameters.objectStorage.connection.keysOrigin⟩

/-- The two credentials of a resolution, the password first. -/
def established (x : Resolution) : List Established := [x.databasePassword, x.storageKeys]

theorem mem_established {x : Resolution} {g : Established} :
    g ∈ x.established ↔ g = x.databasePassword ∨ g = x.storageKeys := by
  simp [established]

end Resolution

namespace Plan

theorem databasePassword_complete (p : Plan) (password keys : Credential × Origin) :
    (p.complete password keys).databasePassword =
      ⟨p.database.credentials, password.1, password.2⟩ := rfl

theorem storageKeys_complete (p : Plan) (password keys : Credential × Origin) :
    (p.complete password keys).storageKeys =
      ⟨p.objectStorage.credentials, keys.1, keys.2⟩ := rfl

end Plan

namespace Application

variable {r : Registry} {fresh : Material} {a : Application} {es : List StoreExchange}

/-- A resolution whose plan has a mistake asks nothing. -/
theorem resolve_gives_of_mistake {e : Misconfiguration} (hp : a.plan r = .error e)
    {x : Except ResolutionError Resolution} :
    (a.resolve r fresh).Gives es x ↔ es = [] ∧ x = .error (.configuration e) := by
  rw [resolve, gives_tellAll, hp]
  exact gives_done

/-- A resolution follows a course over the password, and one over the keys if that one did not
fail. -/
theorem resolve_gives_of_plan {p : Plan} (hp : a.plan r = .ok p)
    {x : Except ResolutionError Resolution} : (a.resolve r fresh).Gives es x ↔
      (∃ e, p.database.credentials.Course fresh es (.error e) ∧ x = .error e) ∨
      ∃ es₁ es₂ password, es = es₁ ++ es₂ ∧ p.database.credentials.Course fresh es₁ (.ok password) ∧
        ((∃ e, p.objectStorage.credentials.Course fresh es₂ (.error e) ∧ x = .error e) ∨
        ∃ keys, p.objectStorage.credentials.Course fresh es₂ (.ok keys) ∧
          x = .ok (p.complete password keys)) := by
  have hkeys {es₂ : List StoreExchange} {password : Credential × Origin} :
      (∃ es₃ es₄ keys, es₂ = es₃ ++ es₄ ∧ p.objectStorage.credentials.Course fresh es₃ (.ok keys) ∧
        (Dialogue.done (.ok (p.complete password keys)) :
          StoreDialogue (Except ResolutionError Resolution)).Gives es₄ x) ↔
      ∃ keys, p.objectStorage.credentials.Course fresh es₂ (.ok keys) ∧
        x = .ok (p.complete password keys) := by
    constructor
    · rintro ⟨es₃, es₄, keys, rfl, h, hx⟩
      obtain ⟨rfl, rfl⟩ := gives_done.mp hx
      exact ⟨keys, by rwa [List.append_nil], rfl⟩
    · rintro ⟨keys, h, rfl⟩
      exact ⟨es₂, [], keys, (List.append_nil es₂).symm, h, .refl _⟩
  rw [resolve, gives_tellAll, hp]
  simp only [Plan.establish, gives_thenTry, CredentialReference.ensure_gives_iff, hkeys]

/-- A resolution is its plan and a course over each credential. -/
theorem resolve_gives_ok_iff {x : Resolution} : (a.resolve r fresh).Gives es (.ok x) ↔
    ∃ p es₁ es₂ password keys, a.plan r = .ok p ∧ es = es₁ ++ es₂ ∧
      p.database.credentials.Course fresh es₁ (.ok password) ∧
      p.objectStorage.credentials.Course fresh es₂ (.ok keys) ∧
      x = p.complete password keys := by
  cases hp : a.plan r with
  | error e =>
    rw [resolve_gives_of_mistake hp]
    constructor
    · rintro ⟨-, ⟨⟩⟩
    · rintro ⟨p, -, -, -, -, ⟨⟩, -⟩
  | ok p =>
    rw [resolve_gives_of_plan hp]
    constructor
    · rintro (⟨e, -, ⟨⟩⟩ | ⟨es₁, es₂, password, rfl, h₁, ⟨e, -, ⟨⟩⟩ | ⟨keys, h₂, hx⟩⟩)
      exact ⟨p, es₁, es₂, password, keys, rfl, rfl, h₁, h₂, Except.ok.inj hx⟩
    · rintro ⟨p', es₁, es₂, password, keys, ⟨⟩, rfl, h₁, h₂, rfl⟩
      exact .inr ⟨es₁, es₂, password, rfl, h₁, .inr ⟨keys, h₂, rfl⟩⟩

/-- A resolution makes its calls under its own two references: it fetches, or it deposits where the
operator answers for the secret. -/
theorem call_eq_of_resolve_gives {x : Except ResolutionError Resolution}
    (h : (a.resolve r fresh).Gives es x) {e : StoreExchange} (he : e ∈ es) :
    ∃ p ref, a.plan r = .ok p ∧
      (ref = p.database.credentials ∨ ref = p.objectStorage.credentials) ∧
      (e.1 = ref.fetch ∨ ref.ownership = .operator ∧ e.1 = ref.deposit fresh) := by
  cases hp : a.plan r with
  | error e' =>
    obtain ⟨rfl, -⟩ := (resolve_gives_of_mistake hp).mp h
    exact absurd he List.not_mem_nil
  | ok p =>
    rcases (resolve_gives_of_plan hp).mp h with ⟨e', hcourse, -⟩ | ⟨es₁, es₂, password, rfl, h₁, h₂⟩
    · exact ⟨p, _, rfl, .inl rfl, hcourse.call_eq he⟩
    · rcases List.mem_append.mp he with he | he
      · exact ⟨p, _, rfl, .inl rfl, h₁.call_eq he⟩
      · rcases h₂ with ⟨e', hcourse, -⟩ | ⟨keys, hcourse, -⟩
        · exact ⟨p, _, rfl, .inr rfl, hcourse.call_eq he⟩
        · exact ⟨p, _, rfl, .inr rfl, hcourse.call_eq he⟩

/-- A resolution makes six calls at most, three for each of the two credentials. -/
theorem length_le_of_resolve_gives {x : Except ResolutionError Resolution}
    (h : (a.resolve r fresh).Gives es x) : es.length ≤ 6 := by
  cases hp : a.plan r with
  | error e =>
    obtain ⟨rfl, -⟩ := (resolve_gives_of_mistake hp).mp h
    exact Nat.zero_le 6
  | ok p =>
    rcases (resolve_gives_of_plan hp).mp h with ⟨e, hcourse, -⟩ | ⟨es₁, es₂, password, rfl, h₁, h₂⟩
    · exact Nat.le_trans hcourse.length_le (by decide)
    · have hkeys : es₂.length ≤ 3 := by
        rcases h₂ with ⟨e, hcourse, -⟩ | ⟨keys, hcourse, -⟩
        · exact hcourse.length_le
        · exact hcourse.length_le
      rw [List.length_append]
      exact Nat.add_le_add h₁.length_le hkeys

/-- Each credential of a resolution comes from a course over its reference, which is sound. -/
theorem exists_course_of_established {x : Resolution} {g : Established}
    (h : (a.resolve r fresh).Gives es (.ok x)) (hg : g ∈ x.established) :
    g.reference.Sound ∧
      ∃ es', es'.Sublist es ∧ g.reference.Course fresh es' (.ok (g.credential, g.origin)) := by
  obtain ⟨p, es₁, es₂, password, keys, hp, rfl, h₁, h₂, rfl⟩ := resolve_gives_ok_iff.mp h
  rcases Resolution.mem_established.mp hg with rfl | rfl
  · exact ⟨plan_database_sound hp, es₁, List.sublist_append_left es₁ es₂, h₁⟩
  · exact ⟨plan_storage_sound hp, es₂, List.sublist_append_right es₁ es₂, h₂⟩

/-- A resolution deposits only under its own two references, and only where it found nothing. -/
theorem of_resolve_asks_create {space name : String} {fields : SecretFields}
    {o : Except ClusterFault CreateOutcome}
    (h : (a.resolve r fresh).Asks (es ++ [⟨.create space name fields, o⟩])) :
    ∃ p ref, a.plan r = .ok p ∧
      (ref = p.database.credentials ∨ ref = p.objectStorage.credentials) ∧
      ref.ownership = .operator ∧ StoreCall.create space name fields = ref.deposit fresh ∧
      ⟨ref.fetch, .ok none⟩ ∈ es := by
  rw [resolve, asks_tellAll] at h
  cases hp : a.plan r with
  | error e =>
    rw [hp] at h
    exact absurd h not_asks_done_concat
  | ok p =>
    simp only [hp, Plan.establish] at h
    rcases asks_thenTry_concat.mp h with h | ⟨es₁, es₂, password, rfl, -, h⟩
    · obtain ⟨ho, rfl, hd⟩ := CredentialReference.of_asks_create h
      exact ⟨p, _, rfl, .inl rfl, ho, hd, List.mem_singleton_self _⟩
    · rcases asks_thenTry_concat.mp h with h | ⟨es₂, es₃, keys, rfl, -, h⟩
      · obtain ⟨ho, rfl, hd⟩ := CredentialReference.of_asks_create h
        exact ⟨p, _, rfl, .inr rfl, ho, hd, by simp⟩
      · exact absurd h not_asks_done_concat

end Application

end PipelinesOperator
