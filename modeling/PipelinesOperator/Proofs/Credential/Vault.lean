import PipelinesOperator.Proofs.Credential.Course

/-!
# Passes over a credential in a vault

A vault answers the calls of a secret store from a state of its own, and truthfully as far as some
secrets are concerned: it shows what is there, makes what is not there, and leaves everything else
as it was.  A call that it cannot be asked at all always fails, and in one way.

A pass over a credential in such a vault leaves it settled: any later pass, whatever material it
has at hand, ends in one way and changes nothing, as long as the secret stays what it is.

## Main definitions

* `Vault`, `Vault.Truthful`: one who answers for secrets, and does so truthfully
* `Vault.Alike`, `Vault.Keeps`: two states that show the same, or of which the one has all secrets
  of the other
* `CredentialReference.SettledOn`: what every pass over a reference ends with

## Main results

* `ensure_settles`: a pass over a credential leaves it settled
-/

namespace PipelinesOperator

open Dialogue

/-- One who answers the calls of a secret store.  A state shows its secrets by namespace and name,
and the rest of what is seen of it.  Some calls are known to make nothing. -/
structure Vault (σ ρ : Type) where
  serve : (call : StoreCall) → σ → call.Answer × σ
  secret? : σ → String → String → Option SecretFields
  rest : σ → ρ
  Harmless : StoreCall → Prop

namespace Vault

variable {σ ρ : Type} {v : Vault σ ρ} {concerns : String → String → Prop} {s s' s'' : σ}

/-- Two states have the same secrets. -/
def SameSecrets (v : Vault σ ρ) (concerns : String → String → Prop) (s s' : σ) : Prop :=
  ∀ space name, concerns space name → v.secret? s' space name = v.secret? s space name

/-- Two states show the same. -/
structure Alike (v : Vault σ ρ) (concerns : String → String → Prop) (s s' : σ) : Prop where
  secret : v.SameSecrets concerns s s'
  rest : v.rest s' = v.rest s

/-- No secret is lost or changed from one state to the other. -/
structure Keeps (v : Vault σ ρ) (concerns : String → String → Prop) (s s' : σ) : Prop where
  secret : ∀ space name fields, concerns space name → v.secret? s space name = some fields →
    v.secret? s' space name = some fields
  rest : v.rest s' = v.rest s

/-- A vault answers truthfully for some secrets, or fails always and in one way. -/
structure Truthful (v : Vault σ ρ) (concerns : String → String → Prop) : Prop where
  look : ∀ space name, v.Harmless (.get space name)
  get : ∀ space name, concerns space name →
    (∃ fault, ∀ s, v.serve (.get space name) s = (.error fault, s)) ∨
    ∀ s, (v.serve (.get space name) s).1 = .ok (v.secret? s space name) ∧
      v.Alike concerns s (v.serve (.get space name) s).2
  create : ∀ space name, concerns space name →
    (∃ fault, ∀ fields, v.Harmless (.create space name fields) ∧
      ∀ s, v.serve (.create space name fields) s = (.error fault, s)) ∨
    ∀ fields s, v.secret? s space name = none →
      (v.serve (.create space name fields) s).1 = .ok .created ∧
      v.secret? (v.serve (.create space name fields) s).2 space name = some fields ∧
      v.Keeps concerns s (v.serve (.create space name fields) s).2

theorem SameSecrets.refl (s : σ) : v.SameSecrets concerns s s := fun _ _ _ => rfl

theorem SameSecrets.trans (h : v.SameSecrets concerns s s') (h' : v.SameSecrets concerns s' s'') :
    v.SameSecrets concerns s s'' :=
  fun space name hc => (h' space name hc).trans (h space name hc)

theorem Alike.refl (s : σ) : v.Alike concerns s s := ⟨.refl s, rfl⟩

theorem Alike.trans (h : v.Alike concerns s s') (h' : v.Alike concerns s' s'') :
    v.Alike concerns s s'' :=
  ⟨h.secret.trans h'.secret, h'.rest.trans h.rest⟩

theorem Alike.keeps (h : v.Alike concerns s s') : v.Keeps concerns s s' :=
  ⟨fun space name _ hc hs => (h.secret space name hc).trans hs, h.rest⟩

theorem Keeps.trans (h : v.Keeps concerns s s') (h' : v.Keeps concerns s' s'') :
    v.Keeps concerns s s'' :=
  ⟨fun space name fields hc hs => h'.secret space name fields hc (h.secret space name fields hc hs),
    h'.rest.trans h.rest⟩

end Vault

namespace CredentialReference

variable {σ ρ : Type} {v : Vault σ ρ} {concerns : String → String → Prop}
  {r : CredentialReference} {held : Option SecretFields}
  {x : Except ResolutionError (Credential × Origin)}

/-- Every pass over a reference, in a state that holds something or nothing under it, ends in one
way and changes nothing. -/
def SettledOn (r : CredentialReference) (v : Vault σ ρ) (concerns : String → String → Prop)
    (held : Option SecretFields) (x : Except ResolutionError (Credential × Origin)) : Prop :=
  ∀ fresh s, v.secret? s r.space r.name = held → ∃ es s', r.Course fresh es x ∧
    Follows v.serve es s s' ∧ v.Alike concerns s s' ∧ ∀ e ∈ es, v.Harmless e.1

/-- A pass that cannot fetch is settled. -/
theorem settledOn_unread {fault : ClusterFault} (hlook : v.Harmless r.fetch)
    (hget : ∀ s, v.serve r.fetch s = (.error fault, s)) :
    r.SettledOn v concerns held (.error (.store fault)) := by
  intro fresh s hs
  refine ⟨_, s, .unread fault, ⟨?_, ?_⟩, .refl s, by simpa using hlook⟩
  · rw [hget]
  · rw [hget]
    rfl

/-- A pass that finds the secret is settled. -/
theorem settledOn_read (fields : SecretFields) (hlook : v.Harmless r.fetch)
    (hget : ∀ s, (v.serve r.fetch s).1 = .ok (v.secret? s r.space r.name) ∧
      v.Alike concerns s (v.serve r.fetch s).2) :
    r.SettledOn v concerns (some fields) (r.taken fields .existing) := by
  intro fresh s hs
  obtain ⟨hanswer, halike⟩ := hget s
  refine ⟨_, _, .read fields, ⟨?_, rfl⟩, halike, by simpa using hlook⟩
  rw [hanswer, hs]

/-- A pass that misses a secret of the user's is settled. -/
theorem settledOn_missing (hlook : v.Harmless r.fetch)
    (hget : ∀ s, (v.serve r.fetch s).1 = .ok (v.secret? s r.space r.name) ∧
      v.Alike concerns s (v.serve r.fetch s).2) (ho : r.ownership = .user) :
    r.SettledOn v concerns none (.error (.configuration (.secretNotFound r.name))) := by
  intro fresh s hs
  obtain ⟨hanswer, halike⟩ := hget s
  refine ⟨_, _, .missing ho, ⟨?_, rfl⟩, halike, by simpa using hlook⟩
  rw [hanswer, hs]

/-- A pass that cannot make the secret it misses is settled. -/
theorem settledOn_unstored {fault : ClusterFault} (hlook : v.Harmless r.fetch)
    (hget : ∀ s, (v.serve r.fetch s).1 = .ok (v.secret? s r.space r.name) ∧
      v.Alike concerns s (v.serve r.fetch s).2) (ho : r.ownership = .operator)
    (hcreate : ∀ fields, v.Harmless (.create r.space r.name fields) ∧
      ∀ s, v.serve (.create r.space r.name fields) s = (.error fault, s)) :
    r.SettledOn v concerns none (.error (.store fault)) := by
  intro fresh s hs
  obtain ⟨hanswer, halike⟩ := hget s
  refine ⟨_, _, .unstored ho fault, ⟨?_, ?_, rfl⟩, ?_, ?_⟩
  · rw [hanswer, hs]
  · rw [(hcreate _).2]
  · rw [(hcreate _).2]
    exact halike
  · intro e he
    simp only [List.mem_cons, List.not_mem_nil, or_false] at he
    rcases he with rfl | rfl
    · exact hlook
    · exact (hcreate _).1

/-- A pass over a credential leaves it settled: if it fails, every later pass fails in the same
way; and if it ends with a credential, every later pass reads that one. -/
theorem ensure_settles (hv : v.Truthful concerns) (hs : r.Sound) (hc : concerns r.space r.name)
    (fresh : Material) (s : σ) : ∃ es x s', r.Course fresh es x ∧ Follows v.serve es s s' ∧
      ((∃ e, x = .error e ∧ v.Alike concerns s s' ∧
        r.SettledOn v concerns (v.secret? s r.space r.name) (.error e)) ∨
      ∃ c o fields, x = .ok (c, o) ∧ v.Keeps concerns s s' ∧
        v.secret? s' r.space r.name = some fields ∧
        r.SettledOn v concerns (some fields) (.ok (c, .existing))) := by
  have hlook : v.Harmless r.fetch := hv.look _ _
  rcases hv.get _ _ hc with ⟨fault, hget⟩ | hget
  · -- the secret cannot be looked for
    have hsettled : r.SettledOn v concerns (v.secret? s r.space r.name) _ :=
      settledOn_unread hlook hget
    obtain ⟨es, s', hcourse, hfollows, halike, -⟩ := hsettled fresh s rfl
    exact ⟨es, _, s', hcourse, hfollows, .inl ⟨_, rfl, halike, hsettled⟩⟩
  · cases hheld : v.secret? s r.space r.name with
    | some fields =>
      have hsettled := settledOn_read fields hlook hget
      obtain ⟨es, s', hcourse, hfollows, halike, -⟩ := hsettled fresh s hheld
      refine ⟨es, _, s', hcourse, hfollows, ?_⟩
      cases hx : r.taken fields .existing with
      | error e => exact .inl ⟨e, rfl, halike, hx ▸ hsettled⟩
      | ok y =>
        obtain ⟨c, o⟩ := y
        obtain ⟨-, rfl⟩ := taken_eq_ok.mp hx
        refine .inr ⟨c, _, fields, rfl, halike.keeps, ?_, hx ▸ hsettled⟩
        rw [halike.secret _ _ hc, hheld]
    | none =>
      cases ho : r.ownership with
      | user =>
        have hsettled := settledOn_missing hlook hget ho
        obtain ⟨es, s', hcourse, hfollows, halike, -⟩ := hsettled fresh s hheld
        exact ⟨es, _, s', hcourse, hfollows, .inl ⟨_, rfl, halike, hsettled⟩⟩
      | operator =>
        rcases hv.create _ _ hc with ⟨fault, hcreate⟩ | hcreate
        · -- it is missing and cannot be made
          have hsettled := settledOn_unstored hlook hget ho hcreate
          obtain ⟨es, s', hcourse, hfollows, halike, -⟩ := hsettled fresh s hheld
          exact ⟨es, _, s', hcourse, hfollows, .inl ⟨_, rfl, halike, hsettled⟩⟩
        · -- it is missing and is made
          obtain ⟨hanswer, halike⟩ := hget s
          have hheld' : v.secret? (v.serve r.fetch s).2 r.space r.name = none := by
            rw [halike.secret _ _ hc, hheld]
          obtain ⟨hmade, hstored, hkeeps⟩ :=
            hcreate (r.toFields (fresh.credential r.kind)) _ hheld'
          refine ⟨_, _, _, .created ho, ⟨?_, ?_, rfl⟩, .inr ⟨_, _, _, rfl,
            halike.keeps.trans hkeeps, hstored, ?_⟩⟩
          · rw [hanswer, hheld]
          · exact hmade.symm
          · have hread := settledOn_read (r.toFields (fresh.credential r.kind)) hlook hget
            rwa [taken_eq_ok.mpr ⟨hs.extract_toFields ho fresh, rfl⟩] at hread

end CredentialReference

end PipelinesOperator
