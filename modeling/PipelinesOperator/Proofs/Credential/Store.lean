import PipelinesOperator.Credential.Store
import PipelinesOperator.Proofs.Table

/-!
# What calls do to a secret store

A call never takes anything from a store: it keeps every secret there is, and the one secret that
it may add is the one that it was to make.  This holds whether the caller gets the answer or an
error, since a store may fail before it has done what it was asked, or after.

## Main definitions

* `StoreCall.place`: where the secret is that a call is about
* `SecretStore.Grows s s'`: every secret of `s` is in `s'` as it was
* `SecretStore.Served s q a s'`: the store `s` may answer the call `q` by `a` and be `s'` then

## Main results

* `Served.grows`: a call changes and removes nothing
* `answer_congr`: what a call does is told by the one secret that it is about
* `Served.create_of_added`: a secret is added only by the call that makes it
* `Served.of_get`, `Served.of_created`: what the answers without an error tell of the store
-/

namespace PipelinesOperator

/-- The answer of a store that fails. -/
def StoreCall.failure (fault : ClusterFault) : (call : StoreCall) → call.Answer
  | .get .. => .error fault
  | .create .. => .error fault

/-- The namespace and the name of the secret that a call is about. -/
def StoreCall.place : StoreCall → String × String
  | .get space name => (space, name)
  | .create space name _ => (space, name)

namespace SecretStore

variable {s s' s'' : SecretStore} {space name : String} {fields : SecretFields}

theorem get?_put (s : SecretStore) (space name : String) (fields : SecretFields)
    (space' name' : String) : (s.put space name fields).get? space' name' =
      if (space', name') = (space, name) then some fields else s.get? space' name' := by
  rw [get?, put, apply_ite SecretStore.secrets]
  exact lookup_replace_or_append (space, name) (space', name') fields s.secrets

/-- A secret that is not there is added behind all the others. -/
theorem secrets_put_of_none (h : s.get? space name = none) :
    (s.put space name fields).secrets = s.secrets ++ [((space, name), fields)] := by
  rw [put, h]
  rfl

/-! ## Growing stores -/

/-- Every secret of the first store is in the second as it was. -/
def Grows (s s' : SecretStore) : Prop :=
  ∀ space name fields, s.get? space name = some fields → s'.get? space name = some fields

theorem Grows.refl (s : SecretStore) : s.Grows s := fun _ _ _ h => h

theorem Grows.trans (h : s.Grows s') (h' : s'.Grows s'') : s.Grows s'' :=
  fun _ _ _ hs => h' _ _ _ (h _ _ _ hs)

theorem put_grows (h : s.get? space name = none) : s.Grows (s.put space name fields) := by
  intro space' name' fields' hs
  rw [get?_put, if_neg, hs]
  rintro ⟨⟩
  exact Option.some_ne_none _ (hs.symm.trans h)

theorem answer_create_of_none (h : s.get? space name = none) :
    answer (.create space name fields) s = (.ok .created, s.put space name fields) := by
  simp [answer, h]

theorem answer_create_of_some {old : SecretFields} (h : s.get? space name = some old) :
    answer (.create space name fields) s = (.ok .alreadyExists, s) := by
  simp [answer, h]

theorem answer_grows (q : StoreCall) (s : SecretStore) : s.Grows (answer q s).2 := by
  cases q with
  | get space name => exact .refl s
  | create space name fields =>
    cases h : s.get? space name with
    | none =>
      rw [answer_create_of_none h]
      exact put_grows h
    | some old =>
      rw [answer_create_of_some h]
      exact .refl s

/-- The one secret that an answer adds is the one that was to be made. -/
theorem create_of_answer_added {q : StoreCall} (h : s.get? space name = none)
    (h' : (answer q s).2.get? space name = some fields) : q = .create space name fields := by
  cases q with
  | get space' name' => exact absurd (h'.symm.trans h) (Option.some_ne_none _)
  | create space' name' fields' =>
    cases hs : s.get? space' name' with
    | some old =>
      rw [answer_create_of_some hs] at h'
      exact absurd (h'.symm.trans h) (Option.some_ne_none _)
    | none =>
      rw [answer_create_of_none hs, get?_put] at h'
      split at h'
      · rename_i heq
        obtain ⟨rfl, rfl⟩ := Prod.mk.inj heq
        obtain rfl := Option.some.inj h'
        rfl
      · exact absurd (h'.symm.trans h) (Option.some_ne_none _)

/-! ## The one secret that a call is about -/

/-- A call leaves every other secret as it is. -/
theorem get?_answer_of_ne {q : StoreCall} (h : (space, name) ≠ q.place) :
    (answer q s).2.get? space name = s.get? space name := by
  cases q with
  | get space' name' => rfl
  | create space' name' fields' =>
    cases hs : s.get? space' name' with
    | none =>
      rw [answer_create_of_none hs, get?_put]
      exact if_neg h
    | some old => rw [answer_create_of_some hs]

/-- Stores that agree on the secret that a call is about answer it alike, and what they agreed on
before they agree on behind it. -/
theorem answer_congr {q : StoreCall}
    (h : s.get? q.place.1 q.place.2 = s'.get? q.place.1 q.place.2) :
    (answer q s).1 = (answer q s').1 ∧
      ∀ space name, s.get? space name = s'.get? space name →
        (answer q s).2.get? space name = (answer q s').2.get? space name := by
  cases q with
  | get space name => exact ⟨congrArg Except.ok h, fun _ _ hagree => hagree⟩
  | create space name fields =>
    change s.get? space name = s'.get? space name at h
    cases hs : s.get? space name with
    | none =>
      rw [answer_create_of_none hs, answer_create_of_none (h ▸ hs)]
      refine ⟨rfl, fun space' name' hagree => ?_⟩
      rw [get?_put, get?_put, hagree]
    | some old =>
      rw [answer_create_of_some hs, answer_create_of_some (h ▸ hs)]
      exact ⟨rfl, fun _ _ hagree => hagree⟩

/-- A store that holds what another holds does so behind one more call, if they agree on the secret
that the call is about. -/
theorem Grows.answer {q : StoreCall} (hgrows : s.Grows s')
    (h : s.get? q.place.1 q.place.2 = s'.get? q.place.1 q.place.2) :
    (answer q s).2.Grows (answer q s').2 := by
  intro space name fields hheld
  by_cases hp : (space, name) = q.place
  · have hthere : s.get? space name = s'.get? space name := by
      rw [← hp] at h
      exact h
    rw [← (answer_congr h).2 space name hthere]
    exact hheld
  · rw [get?_answer_of_ne hp] at hheld
    exact answer_grows q s' _ _ _ (hgrows _ _ _ hheld)

/-! ## Stores that may fail -/

/-- A store answers a call, or it fails, before it has done what it was asked or after. -/
def Served (s : SecretStore) (q : StoreCall) (a : q.Answer) (s' : SecretStore) : Prop :=
  (a = (answer q s).1 ∧ s' = (answer q s).2) ∨
    (∃ fault, a = q.failure fault) ∧ (s' = s ∨ s' = (answer q s).2)

namespace Served

theorem answered (q : StoreCall) (s : SecretStore) : Served s q (answer q s).1 (answer q s).2 :=
  .inl ⟨rfl, rfl⟩

theorem eq_or_eq {q : StoreCall} {a : q.Answer} (h : Served s q a s') :
    s' = s ∨ s' = (answer q s).2 := by
  rcases h with ⟨-, hs⟩ | ⟨-, hs⟩
  · exact .inr hs
  · exact hs

/-- A store that has not failed has done what it was asked. -/
theorem eq_answer {q : StoreCall} {a : q.Answer} (h : Served s q a s')
    (hok : ∀ fault, a ≠ q.failure fault) : a = (answer q s).1 ∧ s' = (answer q s).2 := by
  rcases h with h | ⟨⟨fault, ha⟩, -⟩
  · exact h
  · exact absurd ha (hok fault)

/-- A call changes and removes nothing. -/
theorem grows {q : StoreCall} {a : q.Answer} (h : Served s q a s') : s.Grows s' := by
  rcases h.eq_or_eq with rfl | rfl
  · exact .refl _
  · exact answer_grows q s

/-- A secret is added only by the call that makes it. -/
theorem create_of_added {q : StoreCall} {a : q.Answer} (h : Served s q a s')
    (hn : s.get? space name = none) (hs : s'.get? space name = some fields) :
    q = .create space name fields := by
  rcases h.eq_or_eq with rfl | rfl
  · exact absurd (hs.symm.trans hn) (Option.some_ne_none _)
  · exact create_of_answer_added hn hs

theorem of_get {found : Option SecretFields} (h : Served s (.get space name) (.ok found) s') :
    s' = s ∧ s.get? space name = found := by
  rcases h with ⟨ha, hs⟩ | ⟨⟨fault, ha⟩, -⟩
  · exact ⟨hs, (Except.ok.inj ha).symm⟩
  · cases ha

theorem of_created (h : Served s (.create space name fields) (.ok .created) s') :
    s.get? space name = none ∧ s'.get? space name = some fields := by
  rcases h with ⟨ha, rfl⟩ | ⟨⟨fault, ha⟩, -⟩
  · cases hs : s.get? space name with
    | none =>
      rw [answer_create_of_none hs, get?_put, if_pos rfl]
      exact ⟨rfl, rfl⟩
    | some old =>
      rw [answer_create_of_some hs] at ha
      cases ha
  · cases ha

end Served

end SecretStore

end PipelinesOperator
