import PipelinesOperator.Proofs.Resolution.Settle

/-!
# Replaying a resolution

A store that does not fail, and that nobody else writes to, is a truthful vault.  So a resolution
leaves its application settled there: whoever resolves it again, with whatever material at hand,
makes no secret, and ends as the first one did, except that both credentials are found this time.

## Main definitions

* `StoreCall.Looks`: a call that only fetches
* `SecretStore.vault`: a store that does not fail, as a vault

## Main results

* `SecretStore.truthful`: a store that does not fail answers truthfully
* `resolve_gives_fault`: a resolution ends with a fault only if a call failed
* `replay_changes_nothing`: a resolution on the store that another one left behind
-/

namespace PipelinesOperator

open Dialogue

/-- A call that only fetches. -/
def StoreCall.Looks (call : StoreCall) : Prop := ∃ space name, call = .get space name

namespace SecretStore

/-- A store that does not fail, as a vault of which nothing is seen but its secrets. -/
def vault : Vault SecretStore Unit where
  serve := answer
  secret? := get?
  rest _ := ()
  Harmless := StoreCall.Looks

/-- A store that does not fail answers truthfully for all of its secrets. -/
theorem truthful (concerns : String → String → Prop) : vault.Truthful concerns where
  look space name := ⟨space, name, rfl⟩
  get space name _ := .inr fun store => ⟨rfl, .refl store⟩
  create space name _ := by
    refine .inr fun fields store (hnone : store.get? space name = none) => ?_
    have hserve : vault.serve (.create space name fields) store =
        (.ok .created, store.put space name fields) := answer_create_of_none hnone
    rw [hserve]
    refine ⟨rfl, ?_, ?_, rfl⟩
    · change (store.put space name fields).get? space name = some fields
      rw [get?_put, if_pos rfl]
    · intro space' name' fields' _ hheld
      exact put_grows hnone space' name' fields' hheld

/-- Calls that only fetch leave a store as it is. -/
theorem eq_of_follows {es : List StoreExchange} {store store' : SecretStore}
    (hf : Follows answer es store store') (hlook : ∀ e ∈ es, e.1.Looks) : store' = store := by
  induction es generalizing store with
  | nil => exact hf
  | cons e es ih =>
    obtain ⟨call, a⟩ := e
    obtain ⟨space, name, rfl⟩ := hlook _ List.mem_cons_self
    exact ih hf.2 fun e he => hlook e (List.mem_cons_of_mem _ he)

/-- A store that does not fail gives no failure for an answer. -/
theorem ne_failure_of_follows {es : List StoreExchange} {store store' : SecretStore}
    (hf : Follows answer es store store') (fault : ClusterFault) :
    ∀ e ∈ es, e.2 ≠ e.1.failure fault := by
  induction es generalizing store with
  | nil => exact nofun
  | cons e es ih =>
    obtain ⟨call, a⟩ := e
    obtain ⟨rfl, hf⟩ := hf
    intro e he
    rcases List.mem_cons.mp he with rfl | he
    · cases call with
      | get space name => exact nofun
      | create space name fields =>
        cases hheld : store.get? space name with
        | none =>
          rw [answer_create_of_none hheld]
          exact nofun
        | some old =>
          rw [answer_create_of_some hheld]
          exact nofun
    · exact ih hf e he

end SecretStore

/-- A pass over a credential ends with a fault only if a call failed.  What is read from a secret
may be a mistake of the user's, but no fault of the store. -/
theorem CredentialReference.Course.exists_failure {r : CredentialReference} {fresh : Material}
    {es : List StoreExchange} {fault : ClusterFault}
    (h : r.Course fresh es (.error (.store fault))) : ∃ e ∈ es, e.2 = e.1.failure fault := by
  have htaken {fields : SecretFields} {o : Origin} :
      r.taken fields o ≠ .error (.store fault) := by
    rw [taken, misconfigured]
    cases r.extract fields with
    | error e =>
      intro hfault
      cases hfault
    | ok c =>
      intro hfault
      cases hfault
  generalize hx : Except.error (ResolutionError.store fault) = x at h
  cases h with
  | unread fault' =>
    cases hx
    exact ⟨_, List.mem_cons_self, rfl⟩
  | unstored ho fault' =>
    cases hx
    exact ⟨_, List.mem_cons_of_mem _ List.mem_cons_self, rfl⟩
  | unadopted ho fault' =>
    cases hx
    exact ⟨_, List.mem_cons_of_mem _ (List.mem_cons_of_mem _ List.mem_cons_self), rfl⟩
  | read fields => exact absurd hx.symm htaken
  | adopted ho fields => exact absurd hx.symm htaken
  | missing | created | vanished => cases hx

namespace Application

variable {a : Application} {r : Registry} {fresh : Material} {es : List StoreExchange}

/-- A resolution ends with a fault only if a call failed. -/
theorem resolve_gives_fault {fault : ClusterFault}
    (h : (a.resolve r fresh).Gives es (.error (.store fault))) :
    ∃ e ∈ es, e.2 = e.1.failure fault := by
  cases hp : a.plan r with
  | error e =>
    obtain ⟨-, hx⟩ := (resolve_gives_of_mistake hp).mp h
    cases hx
  | ok p =>
    rcases (resolve_gives_of_plan hp).mp h with
      ⟨e, hcourse, hx⟩ | ⟨es₁, es₂, password, rfl, -, ⟨e, hcourse, hx⟩ | ⟨keys, -, hx⟩⟩
    · cases hx
      exact hcourse.exists_failure
    · cases hx
      obtain ⟨e, he, hfailure⟩ := hcourse.exists_failure
      exact ⟨e, List.mem_append_right es₁ he, hfailure⟩
    · cases hx

/-- On a store that does not fail, a resolution that is run again on what the first one left
behind changes nothing and makes no secret.  If the first one gave a result, so does the second,
with both credentials found and everything else as it was; if the first one met a
misconfiguration, the second meets the same; and neither ever meets a fault. -/
theorem replay_changes_nothing (a : Application) (r : Registry) (fresh fresh' : Material)
    (store : SecretStore) :
    let first := run SecretStore.answer (a.resolve r fresh) store
    let replay := run SecretStore.answer (a.resolve r fresh') first.state
    replay.state = first.state ∧
    (∀ call ∈ questions SecretStore.answer (a.resolve r fresh') first.state, call.Looks) ∧
    (∀ x, first.result = .ok x → replay.result = .ok x.replayed) ∧
    (∀ e, first.result = .error (.configuration e) →
      replay.result = .error (.configuration e)) ∧
    (∀ fault, first.result ≠ .error (.store fault)) := by
  intro first replay
  obtain ⟨es, x, behind, hgives, hfollows, -, hsettled⟩ :=
    resolve_settles (SecretStore.truthful (a.Concerns r)) fresh store
  obtain ⟨hresult, hstate, -⟩ := hgives.run_eq hfollows
  obtain ⟨es', behind', hgives', hfollows', -, hlook⟩ := hsettled fresh' behind (.refl behind)
  obtain ⟨hresult', hstate', hquestions⟩ := hgives'.run_eq hfollows'
  have hfirst : first.result = x := hresult
  have hbehind : first.state = behind := hstate
  have hreplay : replay.result = x.map Resolution.replayed := by
    rw [← hresult', ← hbehind]
    rfl
  refine ⟨?_, ?_, ?_, ?_, ?_⟩
  · have hsame : behind' = behind := SecretStore.eq_of_follows hfollows' hlook
    calc replay.state
      _ = (run SecretStore.answer (a.resolve r fresh') behind).state := by rw [← hbehind]
      _ = behind' := hstate'
      _ = first.state := by rw [hsame, hbehind]
  · intro call hcall
    rw [hbehind] at hcall
    have hmem : call ∈ es'.map Sigma.fst := hquestions ▸ hcall
    obtain ⟨e, he, rfl⟩ := List.mem_map.mp hmem
    exact hlook e he
  · intro y hy
    rw [hreplay, ← hfirst, hy]
    rfl
  · intro e he
    rw [hreplay, ← hfirst, he]
    rfl
  · intro fault hfault
    rw [← hfirst, hfault] at hgives
    obtain ⟨e, he, hfailure⟩ := resolve_gives_fault hgives
    exact SecretStore.ne_failure_of_follows hfollows fault e he hfailure

end Application

end PipelinesOperator
