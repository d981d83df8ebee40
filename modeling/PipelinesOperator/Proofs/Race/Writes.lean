import PipelinesOperator.Proofs.Race.Agreement

/-!
# What passes write

Whatever outsiders do between the calls of a pass, the pass itself changes and removes nothing.
It adds at most the two secrets that the operator names after its application, each only if the
user has named no other one and the pass has found none, and with nothing in it but fresh
material.  What a pass returns it has not made up: it stood in the store at a moment of the pass.

## Main results

* `Run.exists_plan_of_added`: a secret that a pass adds is one that its plan leaves to the operator
* `passes_add_own_secrets`: what passes may do to a store, in any company
-/

namespace PipelinesOperator

open Dialogue

variable {ι : Type} [DecidableEq ι]

namespace Run

variable {entrant : ι → Entrant} {store : SecretStore} {c : Scene ι}
  {hs hs₁ hs₂ : List (Happening ι)} {h : Happening ι} {i : ι}

/-- A secret that a pass adds is one that its plan leaves to the operator, and the pass has found
it missing. -/
theorem exists_plan_of_added (run : Run (Scene.start entrant store) hs c)
    (hl : hs = hs₁ ++ h :: hs₂) (hi : h.act.actor? = some i) {space name : String}
    {fields : SecretFields} (hnew : h.before.get? space name = none)
    (hmade : h.after.get? space name = some fields) :
    ∃ p ref, (entrant i).application.plan (entrant i).registry = .ok p ∧
      (ref = p.database.credentials ∨ ref = p.objectStorage.credentials) ∧
      ref.ownership = .operator ∧
      StoreCall.create space name fields = ref.deposit (entrant i).fresh ∧
      ∃ h' ∈ hs₁, h'.act = .call i ⟨.get space name, .ok none⟩ ∧
        h'.before.get? space name = none := by
  obtain ⟨q, a, hasks, hserved⟩ := run.exists_asks_of_split hl hi
  obtain rfl := hserved.create_of_added hnew hmade
  obtain ⟨p, ref, hp, href, ho, hd, hmem⟩ := Application.of_resolve_asks_create hasks
  obtain ⟨rfl, rfl, -⟩ := StoreCall.create.inj hd
  obtain ⟨h', hh', hact⟩ := mem_heard.mp hmem
  have hget := (run.served (by simp [hl, hh']) hact).of_get
  exact ⟨p, ref, hp, href, ho, hd, h', hh', hact, hget.2⟩

end Run

/-- In any company, passes change and remove no secret.  A pass adds at most the secrets that the
operator names after its application, each only if its plan leaves that credential to the operator
and a call of the pass has found none, and with nothing in it but letters and digits in their
number.  And every credential that a pass returns stood in the store behind one of its calls. -/
theorem passes_add_own_secrets (entrant : ι → Entrant) (store : SecretStore) {c : Scene ι}
    {hs : List (Happening ι)} (run : Run (Scene.start entrant store) hs c) :
    (∀ h ∈ hs, h.act ≠ .outside → h.before.Grows h.after) ∧
    (∀ hs₁ h hs₂ i space name fields, hs = hs₁ ++ h :: hs₂ → h.act.actor? = some i →
      h.before.get? space name = none → h.after.get? space name = some fields →
      ∃ p own, (entrant i).application.plan (entrant i).registry = .ok p ∧
        (entrant i).application.metadata.space = some space ∧
        (entrant i).application.metadata.name = some own ∧
        (∃ h' ∈ hs₁, h'.act = .call i ⟨.get space name, .ok none⟩ ∧
          h'.before.get? space name = none) ∧
        ((name = "ds-pipeline-db-" ++ own ∧ p.database.credentials.ownership = .operator ∧
          ∃ password, fields.entries = [("password", password)] ∧ password.length = 12 ∧
            IsAlphanumeric password) ∨
        (name = "ds-pipeline-s3-" ++ own ∧ p.objectStorage.credentials.ownership = .operator ∧
          ∃ access secret, fields.entries = [("accesskey", access), ("secretkey", secret)] ∧
            access.length = 16 ∧ secret.length = 24 ∧ IsAlphanumeric access ∧
            IsAlphanumeric secret))) ∧
    (∀ i x, c.Returned i (.ok x) → ∀ g ∈ x.established,
      ∃ h ∈ hs, h.act.actor? = some i ∧ g.StandsIn h.after) := by
  refine ⟨?_, ?_, fun i x hx g hg => run.exists_standsIn hx hg⟩
  · intro h hh hact
    obtain ⟨c₁, c₂, hstep, hb, ha⟩ := run.exists_step hh
    rw [hb, ha]
    exact hstep.grows hact
  · intro hs₁ h hs₂ i space name fields hl hi hnew hmade
    obtain ⟨p, ref, hp, href, ho, hd, hfound⟩ := run.exists_plan_of_added hl hi hnew hmade
    obtain ⟨hname, hspace⟩ := Application.plan_metadata hp
    have halnum := (entrant i).fresh.alphanumeric.of_append
    rcases href with rfl | rfl
    · obtain ⟨custom, hc⟩ := Application.plan_database hp
      rw [hc] at ho hd
      rw [CredentialReference.database_of_operator ho] at hd
      obtain ⟨rfl, rfl, rfl⟩ := StoreCall.create.inj hd
      refine ⟨p, p.name, hp, hspace, hname, hfound,
        .inl ⟨rfl, by rw [hc, ho], (entrant i).fresh.password, ?_, ?_, ?_⟩⟩
      · exact CredentialReference.entries_toFields_database p.space p.name (entrant i).fresh
      · exact (entrant i).fresh.password_length
      · exact halnum.1.of_append.1
    · obtain ⟨custom, hc⟩ := Application.plan_storage hp
      rw [hc] at ho hd
      rw [CredentialReference.storage_of_operator ho] at hd
      obtain ⟨rfl, rfl, rfl⟩ := StoreCall.create.inj hd
      refine ⟨p, p.name, hp, hspace, hname, hfound,
        .inr ⟨rfl, by rw [hc, ho], (entrant i).fresh.accessKey, (entrant i).fresh.secretKey,
          ?_, ?_, ?_, ?_, ?_⟩⟩
      · exact CredentialReference.entries_toFields_storage p.space p.name (entrant i).fresh
      · exact (entrant i).fresh.accessKey_length
      · exact (entrant i).fresh.secretKey_length
      · exact halnum.1.of_append.2
      · exact halnum.2

/-- One pass over the plain application. -/
def solo (_ : Unit) : Entrant := .plain 0

/-- The pass has stored its password. -/
def halfway : Scene Unit := ((Scene.start solo ⟨[]⟩).play [(), ()]).2

/-- An outsider has erased the store. -/
def erased : Scene Unit := ⟨⟨[]⟩, halfway.rest⟩

/-- The pass returns all the same, with a password that is gone by then; but it stood in the store
once. -/
theorem passes_add_own_secrets_erased :
    ∃ hs c x, Run (Scene.start solo ⟨[]⟩) hs c ∧ c.Returned () (.ok x) ∧
      c.store.get? "pipelines" "ds-pipeline-db-sample" = none ∧
      ∃ h ∈ hs, h.act.actor? = some () ∧ x.databasePassword.StandsIn h.after := by
  have before : Run (Scene.start solo ⟨[]⟩) _ halfway := run_play [(), ()] _
  have behind : Run erased _ (erased.play [(), ()]).2 := run_play [(), ()] _
  have run := (before.step (.outside halfway.store ⟨[]⟩ halfway.rest)).trans behind
  obtain ⟨x, hx⟩ : ∃ x, (erased.play [(), ()]).2.resolved? () = some x :=
    Option.isSome_iff_exists.mp (by decide +kernel)
  replace hx := Scene.returned_of_resolved? hx
  obtain ⟨-, -, hstood⟩ := passes_add_own_secrets solo ⟨[]⟩ run
  refine ⟨_, _, x, run, hx, by decide +kernel, ?_⟩
  exact hstood () x hx x.databasePassword (by simp [Resolution.established])

end PipelinesOperator
