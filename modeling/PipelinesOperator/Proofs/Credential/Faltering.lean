import PipelinesOperator.Proofs.Credential.Course

/-!
# Passes against a store that falters

A store falters by a script that says of each call to come whether it fails, and a call that fails
does nothing.  Nobody else writes to the store.  Then a pass over a credential leaves the store as
it was, unless it makes its secret: it does so exactly if the operator answers for the secret, the
secret is not there, and the script spares the two calls that this takes.

## Main definitions

* `FalteringStore`, `FalteringStore.answer`: a store with a script, and how it answers
* `CredentialReference.Makes`: a pass makes its secret

## Main results

* `grows_of_follows`: a store that falters loses nothing
* `Course.store_of_follows`: what a pass over a credential leaves behind
* `Course.found_of_follows`: a pass over a credential that is there
-/

namespace PipelinesOperator

open Dialogue

/-- A store with a script: each of the calls to come takes the next entry of the script, and fails
if that is a fault.  Behind the end of the script no call fails. -/
structure FalteringStore where
  script : List (Option ClusterFault)
  store : SecretStore

namespace FalteringStore

variable {s s' : FalteringStore} {space name : String} {fields : SecretFields}

/-- How the next call fails, if it does. -/
def fault? (s : FalteringStore) : Option ClusterFault := s.script[0]?.join

/-- A call that fails does nothing, and every other one is answered as by a store that does not
fail. -/
def answer (call : StoreCall) (s : FalteringStore) : call.Answer × FalteringStore :=
  match s.fault? with
  | some fault => (call.failure fault, ⟨s.script.tail, s.store⟩)
  | none =>
    let (a, store) := SecretStore.answer call s.store
    (a, ⟨s.script.tail, store⟩)

theorem answer_of_fault {fault : ClusterFault} (h : s.fault? = some fault) (call : StoreCall) :
    answer call s = (call.failure fault, ⟨s.script.tail, s.store⟩) := by
  simp only [answer, h]

theorem answer_of_spared (h : s.fault? = none) (call : StoreCall) :
    answer call s =
      ((SecretStore.answer call s.store).1,
        ⟨s.script.tail, (SecretStore.answer call s.store).2⟩) := by
  simp only [answer, h]

/-- A store that falters is one that may fail. -/
theorem served (call : StoreCall) (s : FalteringStore) :
    s.store.Served call (answer call s).1 (answer call s).2.store := by
  cases h : s.fault? with
  | some fault =>
    rw [answer_of_fault h]
    exact .inr ⟨⟨fault, rfl⟩, .inl rfl⟩
  | none =>
    rw [answer_of_spared h]
    exact .inl ⟨rfl, rfl⟩

/-- A store that falters loses nothing. -/
theorem grows_of_follows {es : List StoreExchange} (hf : Follows answer es s s') :
    s.store.Grows s'.store := by
  induction es generalizing s with
  | nil =>
    obtain rfl := hf
    exact .refl _
  | cons e es ih =>
    obtain ⟨call, a⟩ := e
    exact (served call s).grows.trans (ih hf.2)

/-- Fetching a secret changes nothing, and gives the secret if it does not fail. -/
theorem answer_get (space name : String) (s : FalteringStore) :
    (answer (.get space name) s).2 = ⟨s.script.tail, s.store⟩ ∧
      ∀ found, (answer (.get space name) s).1 = .ok found →
        s.fault? = none ∧ s.store.get? space name = found := by
  cases h : s.fault? with
  | some fault =>
    rw [answer_of_fault h]
    exact ⟨rfl, nofun⟩
  | none =>
    rw [answer_of_spared h]
    exact ⟨rfl, fun found hfound => ⟨rfl, Except.ok.inj hfound⟩⟩

/-- Making a secret that is not there succeeds unless it fails, and a failure changes nothing. -/
theorem answer_create (habsent : s.store.get? space name = none) (fields : SecretFields) :
    (s.fault? = none ∧ answer (.create space name fields) s =
      (.ok .created, ⟨s.script.tail, s.store.put space name fields⟩)) ∨
    ∃ fault, s.fault? = some fault ∧ answer (.create space name fields) s =
      (.error fault, ⟨s.script.tail, s.store⟩) := by
  cases h : s.fault? with
  | some fault => exact .inr ⟨fault, rfl, answer_of_fault h _⟩
  | none =>
    refine .inl ⟨rfl, ?_⟩
    rw [answer_of_spared h, SecretStore.answer_create_of_none habsent]

end FalteringStore

namespace CredentialReference

variable {r : CredentialReference} {fresh : Material} {es : List StoreExchange}
  {x : Except ResolutionError (Credential × Origin)} {s s' : FalteringStore}

/-- A pass makes its secret: the operator answers for it, it is not there, and neither fetching it
nor making it fails. -/
structure Makes (r : CredentialReference) (s : FalteringStore) : Prop where
  owned : r.ownership = .operator
  absent : s.store.get? r.space r.name = none
  fetched : s.script[0]?.join = none
  made : s.script[1]?.join = none

/-- A pass that finds no secret of the operator makes it if the next call is spared, and leaves
everything as it is if not.  The creation meets the second fault of the script. -/
theorem makes_or_unstored {a : Except ClusterFault CreateOutcome} (ho : r.ownership = .operator)
    (hf : Follows FalteringStore.answer (⟨r.fetch, .ok none⟩ :: ⟨r.deposit fresh, a⟩ :: es) s s') :
    (r.Makes s ∧ a = .ok .created ∧ Follows FalteringStore.answer es
      ⟨s.script.drop 2, s.store.put r.space r.name (r.toFields (fresh.credential r.kind))⟩ s') ∨
    (¬r.Makes s ∧ (∃ fault, a = .error fault) ∧
      Follows FalteringStore.answer es ⟨s.script.drop 2, s.store⟩ s') := by
  obtain ⟨hfetch, hdeposit, hrest⟩ := hf
  obtain ⟨hbehind, hgot⟩ := FalteringStore.answer_get r.space r.name s
  obtain ⟨hfetched, habsent⟩ := hgot none hfetch.symm
  rw [hbehind] at hdeposit hrest
  have hdrop : s.script.tail.tail = s.script.drop 2 := by
    rw [← List.drop_one, ← List.drop_one, List.drop_drop]
  have hnext : (⟨s.script.tail, s.store⟩ : FalteringStore).fault? = s.script[1]?.join :=
    congrArg Option.join List.getElem?_tail
  rcases FalteringStore.answer_create (s := ⟨s.script.tail, s.store⟩) habsent
    (r.toFields (fresh.credential r.kind)) with ⟨hspared, heq⟩ | ⟨fault, hfault, heq⟩
  · rw [heq] at hdeposit hrest
    exact .inl ⟨⟨ho, habsent, hfetched, hnext ▸ hspared⟩, hdeposit, hdrop ▸ hrest⟩
  · rw [heq] at hdeposit hrest
    refine .inr ⟨fun hmakes => ?_, ⟨fault, hdeposit⟩, hdrop ▸ hrest⟩
    rw [hnext, hmakes.made] at hfault
    cases hfault

/-- A pass that does not get as far as an answer that there is no secret leaves everything as it
is. -/
theorem store_of_follows_fetch {found : Except ClusterFault (Option SecretFields)}
    (hf : Follows FalteringStore.answer [⟨r.fetch, found⟩] s s') (hne : found ≠ .ok none) :
    ¬r.Makes s ∧ s'.store = s.store := by
  obtain ⟨hfetch, rfl⟩ := hf
  refine ⟨fun hmakes => hne ?_, ?_⟩
  · rw [hfetch, FalteringStore.answer_of_spared hmakes.fetched]
    exact congrArg Except.ok hmakes.absent
  · rw [(FalteringStore.answer_get r.space r.name s).1]

/-- A pass over a credential leaves the store as it was, unless it makes its secret: then the secret
is added, and the pass does not fail.  With nobody else writing, a secret that was not there is not
in the way of its making. -/
theorem Course.store_of_follows (h : r.Course fresh es x)
    (hf : Follows FalteringStore.answer es s s') :
    (r.Makes s ∧ x = .ok (fresh.credential r.kind, .created) ∧ s' =
      ⟨s.script.drop 2, s.store.put r.space r.name (r.toFields (fresh.credential r.kind))⟩) ∨
    (¬r.Makes s ∧ s'.store = s.store) := by
  have hnever {es : List StoreExchange} (ho : r.ownership = .operator)
      (hf : Follows FalteringStore.answer
        (⟨r.fetch, .ok none⟩ :: ⟨r.deposit fresh, .ok .alreadyExists⟩ :: es) s s') : False := by
    rcases makes_or_unstored ho hf with ⟨-, ha, -⟩ | ⟨-, ⟨fault, ha⟩, -⟩
    · cases ha
    · cases ha
  cases h with
  | unread fault => exact .inr (store_of_follows_fetch hf nofun)
  | read fields => exact .inr (store_of_follows_fetch hf nofun)
  | missing ho =>
    obtain ⟨-, rfl⟩ := hf
    refine .inr ⟨fun hmakes => ?_, ?_⟩
    · rw [hmakes.owned] at ho
      cases ho
    · rw [(FalteringStore.answer_get r.space r.name s).1]
  | unstored ho fault =>
    rcases makes_or_unstored ho hf with ⟨-, ha, -⟩ | ⟨hnot, -, rfl⟩
    · cases ha
    · exact .inr ⟨hnot, rfl⟩
  | created ho =>
    rcases makes_or_unstored ho hf with ⟨hmakes, -, rfl⟩ | ⟨-, ⟨fault, ha⟩, -⟩
    · exact .inl ⟨hmakes, rfl, rfl⟩
    · cases ha
  | unadopted ho fault => exact (hnever ho hf).elim
  | vanished ho => exact (hnever ho hf).elim
  | adopted ho fields => exact (hnever ho hf).elim

/-- A pass whose secret is there does not make one, and if it does not fail it has found what the
secret holds. -/
theorem Course.found_of_follows {fields : SecretFields} (h : r.Course fresh es x)
    (hf : Follows FalteringStore.answer es s s')
    (hheld : s.store.get? r.space r.name = some fields) :
    (∀ e ∈ es, e.1 = r.fetch) ∧ ∀ password, x = .ok password → x = r.taken fields .existing := by
  have hfirst {found : Option SecretFields} {behind : List StoreExchange}
      (hf : Follows FalteringStore.answer (⟨r.fetch, .ok found⟩ :: behind) s s') :
      found = some fields := by
    obtain ⟨hfetch, -⟩ := hf
    rw [← ((FalteringStore.answer_get r.space r.name s).2 found hfetch.symm).2, hheld]
  cases h with
  | unread fault => exact ⟨by simp, nofun⟩
  | read fields' =>
    obtain rfl := Option.some.inj (hfirst hf)
    exact ⟨by simp, fun _ _ => rfl⟩
  | missing | unstored | created | unadopted | vanished | adopted => cases hfirst hf

end CredentialReference

end PipelinesOperator
