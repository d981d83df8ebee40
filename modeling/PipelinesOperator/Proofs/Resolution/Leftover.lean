import PipelinesOperator.Proofs.Credential.Faltering
import PipelinesOperator.Proofs.Race.Play
import PipelinesOperator.Proofs.Resolution.Course

/-!
# What a failed attempt leaves behind

An attempt at a resolution is made against a store that falters by a script, with nobody else
writing.  If it fails, the store is as it was, with one exception: when the operator's secret for
the database was made before the keys of object storage could not be had, that secret stays.  It is
complete, and every later attempt takes it up.

## Main definitions

* `Attempt`, `Attempt.outcome`: an attempt at a resolution and what comes of it
* `Attempt.storeBehind`: the store behind some attempts, one after the other
* `Application.HalfDone`: an attempt makes the secret for the database

## Main results

* `takes_up_password`: a later attempt takes up a password that was left behind
* `failed_attempt_leaves`: what a failed attempt leaves behind
-/

namespace PipelinesOperator

open Dialogue

/-- An attempt at a resolution: the registry and the material at hand, and which of the calls
fail. -/
structure Attempt where
  registry : Registry
  fresh : Material
  script : List (Option ClusterFault)

namespace Attempt

/-- What comes of an attempt on a store. -/
def outcome (t : Attempt) (a : Application) (store : SecretStore) :
    Outcome FalteringStore (Except ResolutionError Resolution) :=
  run FalteringStore.answer (a.resolve t.registry t.fresh) ⟨t.script, store⟩

/-- The calls of an attempt on a store. -/
def calls (t : Attempt) (a : Application) (store : SecretStore) : List StoreCall :=
  questions FalteringStore.answer (a.resolve t.registry t.fresh) ⟨t.script, store⟩

/-- The secret that an attempt makes for the database of a plan. -/
def leftover (t : Attempt) (p : Plan) : SecretFields :=
  (CredentialReference.database p.space p.name none).toFields (t.fresh.credential .databasePassword)

/-- The store behind some attempts, one after the other. -/
def storeBehind (a : Application) (attempts : List Attempt) (store : SecretStore) : SecretStore :=
  attempts.foldl (fun store t => (t.outcome a store).state.store) store

/-- Attempts lose nothing. -/
theorem grows_storeBehind (a : Application) (attempts : List Attempt) (store : SecretStore) :
    store.Grows (storeBehind a attempts store) := by
  induction attempts generalizing store with
  | nil => exact .refl store
  | cons t attempts ih =>
    obtain ⟨es, -, hfollows⟩ :=
      exists_gives_run FalteringStore.answer (a.resolve t.registry t.fresh) ⟨t.script, store⟩
    exact (FalteringStore.grows_of_follows hfollows).trans (ih _)

end Attempt

/-- Which secret holds the password does not depend on the registry. -/
theorem Plan.databaseOf_credentials_eq (r r' : Registry) (name space : String) (d : Database) :
    (databaseOf r name space d).credentials = (databaseOf r' name space d).credentials := by
  rw [databaseOf, databaseOf]
  cases d.source with
  | external e => rfl
  | managed block => rfl

namespace Application

variable {a : Application} {r r' : Registry} {p p' : Plan} {t : Attempt} {store : SecretStore}

theorem plan_name_eq (hp : a.plan r = .ok p) (hp' : a.plan r' = .ok p') :
    p'.name = p.name ∧ p'.space = p.space := by
  obtain ⟨hname, hspace⟩ := plan_metadata hp
  obtain ⟨hname', hspace'⟩ := plan_metadata hp'
  exact ⟨Option.some.inj (hname'.symm.trans hname), Option.some.inj (hspace'.symm.trans hspace)⟩

theorem plan_database_eq (hp : a.plan r = .ok p) (hp' : a.plan r' = .ok p') :
    p'.database.credentials = p.database.credentials := by
  obtain ⟨hname, hspace⟩ := plan_name_eq hp hp'
  rw [(plan_eq_ok hp).2.2.2, (plan_eq_ok hp').2.2.2, hname, hspace]
  exact Plan.databaseOf_credentials_eq r' r p.name p.space a.spec.database

/-- An attempt makes the secret for the database: the application has no mistake, the operator
answers for the secret, it is not there, and neither fetching it nor making it fails. -/
structure HalfDone (a : Application) (t : Attempt) (store : SecretStore) (p : Plan) : Prop where
  plan : a.plan t.registry = .ok p
  owned : p.database.credentials.ownership = .operator
  absent : store.get? p.space ("ds-pipeline-db-" ++ p.name) = none
  fetched : t.script[0]?.join = none
  made : t.script[1]?.join = none

/-- The operator's secret for the database is that of a plan whose password the operator answers
for. -/
theorem database_of_owned (hp : a.plan r = .ok p)
    (ho : p.database.credentials.ownership = .operator) :
    p.database.credentials = .database p.space p.name none := by
  obtain ⟨custom, hcustom⟩ := plan_database hp
  rw [hcustom] at ho ⊢
  exact CredentialReference.database_of_operator ho

theorem halfDone_iff_makes (hp : a.plan t.registry = .ok p) :
    a.HalfDone t store p ↔ p.database.credentials.Makes ⟨t.script, store⟩ := by
  constructor
  · intro h
    refine ⟨h.owned, ?_, h.fetched, h.made⟩
    rw [database_of_owned hp h.owned]
    exact h.absent
  · intro h
    refine ⟨hp, h.owned, ?_, h.fetched, h.made⟩
    have habsent := h.absent
    rw [database_of_owned hp h.owned] at habsent
    exact habsent

/-- A course over the keys of object storage makes no secret for a database. -/
theorem create_not_mem_of_course {fresh : Material} {es : List StoreExchange}
    {x : Except ResolutionError (Credential × Origin)} {space name : String} {fields : SecretFields}
    (hp : a.plan r = .ok p) (h : p.objectStorage.credentials.Course fresh es x) :
    StoreCall.create space ("ds-pipeline-db-" ++ name) fields ∉ es.map Sigma.fst := by
  intro hmem
  obtain ⟨e, he, hcall⟩ := List.mem_map.mp hmem
  rcases h.call_eq he with hfetch | ⟨ho, hdeposit⟩
  · rw [hfetch] at hcall
    cases hcall
  · obtain ⟨custom, hcustom⟩ := plan_storage hp
    rw [hcustom] at ho hdeposit
    rw [CredentialReference.storage_of_operator ho, hcall] at hdeposit
    exact Names.databaseSecret_ne_storageSecret name p.name (StoreCall.create.inj hdeposit).2.1

/-- An attempt takes up a password that is there: it makes no secret for it, and what it ends with
has the password as it was found. -/
theorem takes_up_password {fields : SecretFields} {c : Credential} (hp : a.plan r = .ok p)
    (hheld : store.get? p.database.credentials.space p.database.credentials.name = some fields)
    (hc : p.database.credentials.extract fields = .ok c) (t : Attempt) :
    (∀ space name fields',
      StoreCall.create space ("ds-pipeline-db-" ++ name) fields' ∉ t.calls a store) ∧
    ∀ x, (t.outcome a store).result = .ok x →
      x.databasePassword = ⟨p.database.credentials, c, .existing⟩ := by
  obtain ⟨es, hgives, hfollows⟩ :=
    exists_gives_run FalteringStore.answer (a.resolve t.registry t.fresh) ⟨t.script, store⟩
  have hcalls : t.calls a store = es.map Sigma.fst := (hgives.run_eq hfollows).2.2
  change (a.resolve t.registry t.fresh).Gives es (t.outcome a store).result at hgives
  rw [hcalls]
  cases hp' : a.plan t.registry with
  | error e =>
    obtain ⟨rfl, hx⟩ := (resolve_gives_of_mistake hp').mp hgives
    refine ⟨fun _ _ _ => List.not_mem_nil, fun x hok => ?_⟩
    rw [hx] at hok
    cases hok
  | ok p' =>
    have hsame := plan_database_eq hp hp'
    have hfetches {es' : List StoreExchange} (hes' : ∀ e ∈ es', e.1 = p'.database.credentials.fetch)
        {space name : String} {fields' : SecretFields} :
        StoreCall.create space name fields' ∉ es'.map Sigma.fst := by
      intro hmem
      obtain ⟨e, he, hcall⟩ := List.mem_map.mp hmem
      rw [hes' e he] at hcall
      cases hcall
    rw [← hsame] at hheld hc
    rcases (resolve_gives_of_plan hp').mp hgives with
      ⟨e, hcourse, hx⟩ | ⟨es₁, es₂, password, rfl, hpassword, hkeys⟩
    · -- the password is not obtained
      refine ⟨fun _ _ _ => hfetches (hcourse.found_of_follows hfollows hheld).1, fun x hok => ?_⟩
      rw [hx] at hok
      cases hok
    · -- the password is obtained
      obtain ⟨s₁, hfollows₁, -⟩ := follows_append.mp hfollows
      obtain ⟨hes₁, hfound⟩ := hpassword.found_of_follows hfollows₁ hheld
      have hpair : password = (c, .existing) := by
        have htaken := hfound password rfl
        rw [CredentialReference.taken_eq_ok.mpr ⟨hc, rfl⟩] at htaken
        exact Except.ok.inj htaken
      rw [List.map_append]
      refine ⟨fun space name fields' hmem => ?_, fun x hok => ?_⟩
      · rcases List.mem_append.mp hmem with hmem | hmem
        · exact hfetches hes₁ hmem
        · rcases hkeys with ⟨e, hcourse, -⟩ | ⟨keys, hcourse, -⟩
          · exact create_not_mem_of_course hp' hcourse hmem
          · exact create_not_mem_of_course hp' hcourse hmem
      · rcases hkeys with ⟨e, -, hx⟩ | ⟨keys, -, hx⟩
        · rw [hx] at hok
          cases hok
        · rw [hx] at hok
          obtain rfl := Except.ok.inj hok
          rw [Plan.databasePassword_complete, hpair, hsame]

/-- The courses of an attempt that fails: nothing is made, or the secret for the database is made
and then the keys of object storage cannot be had. -/
theorem store_of_failed {e : ResolutionError} (hp : a.plan t.registry = .ok p)
    (h : (t.outcome a store).result = .error e) :
    (a.HalfDone t store p ∧ (t.outcome a store).state.store =
        store.put p.space ("ds-pipeline-db-" ++ p.name) (t.leftover p) ∧
      (run FalteringStore.answer (p.objectStorage.credentials.ensure t.fresh)
        ⟨t.script.drop 2, (t.outcome a store).state.store⟩).result = .error e) ∨
    (¬a.HalfDone t store p ∧ (t.outcome a store).state.store = store) := by
  obtain ⟨es, hgives, hfollows⟩ :=
    exists_gives_run FalteringStore.answer (a.resolve t.registry t.fresh) ⟨t.script, store⟩
  change (a.resolve t.registry t.fresh).Gives es (t.outcome a store).result at hgives
  change Follows FalteringStore.answer es ⟨t.script, store⟩ (t.outcome a store).state at hfollows
  rw [h] at hgives
  rw [halfDone_iff_makes hp]
  rcases (resolve_gives_of_plan hp).mp hgives with
    ⟨e', hcourse, -⟩ | ⟨es₁, es₂, password, rfl, hpassword, ⟨e', hkeys, hx⟩ | ⟨keys, -, ⟨⟩⟩⟩
  · rcases hcourse.store_of_follows hfollows with ⟨-, ⟨⟩, -⟩ | ⟨hnot, hstore⟩
    exact .inr ⟨hnot, hstore⟩
  · obtain rfl := Except.error.inj hx
    obtain ⟨s₁, hfollows₁, hfollows₂⟩ := follows_append.mp hfollows
    have hkept : (t.outcome a store).state.store = s₁.store := by
      rcases hkeys.store_of_follows hfollows₂ with ⟨-, ⟨⟩, -⟩ | ⟨-, hstore⟩
      exact hstore
    rcases hpassword.store_of_follows hfollows₁ with ⟨hmakes, -, rfl⟩ | ⟨hnot, hstore⟩
    · refine .inl ⟨hmakes, ?_, ?_⟩
      · rw [hkept, database_of_owned hp hmakes.owned]
        rfl
      · rw [hkept]
        exact ((CredentialReference.ensure_gives_iff.mpr hkeys).run_eq hfollows₂).1
    · exact .inr ⟨hnot, hkept.trans hstore⟩

/-- An attempt that does not make the secret for the database changes nothing if it fails. -/
theorem store_of_failed_of_not_halfDone {e : ResolutionError}
    (h : (t.outcome a store).result = .error e) (hnot : ∀ p, ¬a.HalfDone t store p) :
    (t.outcome a store).state.store = store := by
  cases hp : a.plan t.registry with
  | error mistake =>
    obtain ⟨es, hgives, hfollows⟩ :=
      exists_gives_run FalteringStore.answer (a.resolve t.registry t.fresh) ⟨t.script, store⟩
    obtain ⟨rfl, -⟩ := (resolve_gives_of_mistake hp).mp hgives
    exact congrArg FalteringStore.store hfollows
  | ok p =>
    rcases store_of_failed hp h with ⟨hhalf, -, -⟩ | ⟨-, hbehind⟩
    · exact absurd hhalf (hnot p)
    · exact hbehind

/-- An attempt that fails never adds the secret for the keys of object storage. -/
theorem storageSecret_of_failed {e : ResolutionError} (hp : a.plan t.registry = .ok p)
    (h : (t.outcome a store).result = .error e) :
    (t.outcome a store).state.store.get? p.space ("ds-pipeline-s3-" ++ p.name) =
      store.get? p.space ("ds-pipeline-s3-" ++ p.name) := by
  rcases store_of_failed hp h with ⟨-, hbehind, -⟩ | ⟨-, hbehind⟩
  · have hne : (p.space, Names.storageSecret p.name) ≠ (p.space, Names.databaseSecret p.name) :=
      fun heq => Names.databaseSecret_ne_storageSecret p.name p.name (Prod.mk.inj heq).2.symm
    rw [hbehind]
    exact (SecretStore.get?_put ..).trans (if_neg hne)
  · rw [hbehind]

/-- A secret for the database that an attempt has left behind is taken up by all that follow. -/
theorem leftover_is_taken_up (hhalf : a.HalfDone t store p) {behind : SecretStore}
    (hheld : behind.get? p.space ("ds-pipeline-db-" ++ p.name) = some (t.leftover p))
    (between : List Attempt) (later : Attempt) :
    (∀ fields, StoreCall.create p.space ("ds-pipeline-db-" ++ p.name) fields ∉
      later.calls a (Attempt.storeBehind a between behind)) ∧
    ∀ x, (later.outcome a (Attempt.storeBehind a between behind)).result = .ok x →
      x.databasePassword = ⟨p.database.credentials, ⟨t.fresh.password, none⟩, .existing⟩ := by
  have hreference := database_of_owned hhalf.plan hhalf.owned
  have hstill := Attempt.grows_storeBehind a between behind _ _ _ hheld
  have hextract : p.database.credentials.extract (t.leftover p) = .ok ⟨t.fresh.password, none⟩ := by
    rw [hreference]
    exact (CredentialReference.database_sound p.space p.name none).extract_toFields rfl t.fresh
  have hplace : (Attempt.storeBehind a between behind).get? p.database.credentials.space
      p.database.credentials.name = some (t.leftover p) := by
    rw [hreference]
    exact hstill
  obtain ⟨hcreate, hpassword⟩ := takes_up_password hhalf.plan hplace hextract later
  exact ⟨hcreate p.space p.name, hpassword⟩

/-- What a failed attempt leaves behind, with nobody else writing.  The secret for the keys of
object storage is never added, and if the attempt did not make the secret for the database, the
store is as it was.  If it did, then it failed over the keys, and the one thing that is new is that
secret, with a password of twelve bytes in it: whatever attempts at the same application are made
from then on, with whatever failures, none makes the secret again, and what does not fail has that
very password, as one that was found. -/
theorem failed_attempt_leaves (a : Application) (first : Attempt) (store : SecretStore)
    {e : ResolutionError} (h : (first.outcome a store).result = .error e) :
    let behind := (first.outcome a store).state.store
    (∀ p, a.plan first.registry = .ok p →
      behind.get? p.space ("ds-pipeline-s3-" ++ p.name) =
        store.get? p.space ("ds-pipeline-s3-" ++ p.name)) ∧
    ((∀ p, ¬a.HalfDone first store p) → behind = store) ∧
    ∀ p, a.HalfDone first store p →
      (run FalteringStore.answer (p.objectStorage.credentials.ensure first.fresh)
        ⟨first.script.drop 2, behind⟩).result = .error e ∧
      (∃ fields : SecretFields,
        behind.secrets = store.secrets ++ [((p.space, "ds-pipeline-db-" ++ p.name), fields)] ∧
        fields.entries = [("password", first.fresh.password)]) ∧
      first.fresh.password.length = 12 ∧
      ∀ (between : List Attempt) (later : Attempt),
        (∀ fields, .create p.space ("ds-pipeline-db-" ++ p.name) fields ∉
          later.calls a (Attempt.storeBehind a between behind)) ∧
        ∀ x, (later.outcome a (Attempt.storeBehind a between behind)).result = .ok x →
          x.databasePassword =
            ⟨p.database.credentials, ⟨first.fresh.password, none⟩, .existing⟩ := by
  intro behind
  refine ⟨fun p hp => storageSecret_of_failed hp h, store_of_failed_of_not_halfDone h,
    fun p hhalf => ?_⟩
  rcases store_of_failed hhalf.plan h with ⟨-, hbehind, hkeys⟩ | ⟨hnot, -⟩
  · replace hbehind : behind = _ := hbehind
    have hheld : behind.get? p.space ("ds-pipeline-db-" ++ p.name) = some (first.leftover p) := by
      rw [hbehind, SecretStore.get?_put, if_pos rfl]
    refine ⟨hkeys, ⟨first.leftover p, ?_, ?_⟩, first.fresh.password_length,
      leftover_is_taken_up hhalf hheld⟩
    · rw [hbehind, SecretStore.secrets_put_of_none hhalf.absent]
    · exact CredentialReference.entries_toFields_database p.space p.name first.fresh
  · exact absurd hhalf hnot

/-- The plain application is left half done when the third call fails, the one that looks for the
keys of object storage; an attempt that does not fail has the first password then, and no other. -/
theorem failed_attempt_leaves_interrupted :
    let first : Attempt := ⟨⟨∅⟩, .repeating 0, [none, none, some .badPath]⟩
    let behind := (first.outcome .plain ⟨[]⟩).state.store
    (first.outcome .plain ⟨[]⟩).result = .error (.store .badPath) ∧
    (∃ fields, behind.secrets = [(("pipelines", "ds-pipeline-db-sample"), fields)]) ∧
    ∀ (later : Attempt) x, (later.outcome .plain behind).result = .ok x →
      x.databasePassword.credential = ⟨List.replicate 12 97, none⟩ := by
  intro first behind
  have hfailed : (first.outcome .plain ⟨[]⟩).result = .error (.store .badPath) := rfl
  obtain ⟨p, hhalf⟩ : ∃ p, plain.HalfDone first ⟨[]⟩ p := ⟨_, ⟨rfl, rfl, rfl, rfl, rfl⟩⟩
  obtain ⟨hname, hspace⟩ := plan_metadata hhalf.plan
  obtain ⟨-, -, hleaves⟩ := failed_attempt_leaves .plain first ⟨[]⟩ hfailed
  obtain ⟨-, ⟨fields, hadded, -⟩, -, hlater⟩ := hleaves p hhalf
  refine ⟨hfailed, ⟨fields, ?_⟩, fun later x hok => ?_⟩
  · rw [← Option.some.inj hname, ← Option.some.inj hspace] at hadded
    exact hadded
  · rw [(hlater [] later).2 x hok]
    rfl

end Application

end PipelinesOperator
