import PipelinesOperator.Proofs.Credential.Fields
import PipelinesOperator.Proofs.Credential.Store
import PipelinesOperator.Proofs.Dialogue

/-!
# The courses of a pass over one credential

A pass over a credential asks at most three questions: it fetches the secret, deposits fresh
material if the secret is the operator's and not there, and fetches again if another writer was
faster.  Its courses list every way in which these questions may be answered and what the pass
ends with then; nothing is assumed of who answers.

## Main definitions

* `CredentialReference.fetch`, `CredentialReference.deposit`: the two calls of a pass
* `CredentialReference.Course r fresh es x`: the exchanges `es` bring a pass to the end `x`

## Main results

* `ensure_gives_iff`: the courses are what `CredentialReference.ensure` does
* `course_ok_iff`: the three courses that end with a credential
* `Course.call_eq`, `Course.length_le`: which calls a pass makes, and how many
* `Course.created_iff`, `Course.adopted_iff`, `Course.existing_iff`: where a credential comes from
* `deposit_ne`: a password and keys are never deposited by one call
* `of_asks_create`: a pass deposits only what the operator answers for and did not find
-/

namespace PipelinesOperator

open Dialogue

/-- A call of a secret store with the answer it got. -/
abbrev StoreExchange := Exchange StoreCall StoreCall.Answer

instance (call : StoreCall) : Nonempty call.Answer := ⟨call.failure .badPath⟩

namespace CredentialReference

variable {r : CredentialReference} {fresh : Material} {es : List StoreExchange}

/-- The call that fetches the secret of a reference. -/
abbrev fetch (r : CredentialReference) : StoreCall := .get r.space r.name

/-- The call that deposits fresh material under a reference. -/
abbrev deposit (r : CredentialReference) (fresh : Material) : StoreCall :=
  .create r.space r.name (r.toFields (fresh.credential r.kind))

/-- What a pass ends with that has read a secret. -/
def taken (r : CredentialReference) (fields : SecretFields) (origin : Origin) :
    Except ResolutionError (Credential × Origin) :=
  (misconfigured (r.extract fields)).map fun c => (c, origin)

/-- The exchanges that bring a pass over a reference to its end, and what it ends with. -/
inductive Course (r : CredentialReference) (fresh : Material) :
    List StoreExchange → Except ResolutionError (Credential × Origin) → Prop where
  | unread (fault : ClusterFault) : Course r fresh [⟨r.fetch, .error fault⟩] (.error (.store fault))
  | read (fields : SecretFields) :
      Course r fresh [⟨r.fetch, .ok (some fields)⟩] (r.taken fields .existing)
  | missing (ho : r.ownership = .user) :
      Course r fresh [⟨r.fetch, .ok none⟩] (.error (.configuration (.secretNotFound r.name)))
  | unstored (ho : r.ownership = .operator) (fault : ClusterFault) :
      Course r fresh [⟨r.fetch, .ok none⟩, ⟨r.deposit fresh, .error fault⟩] (.error (.store fault))
  | created (ho : r.ownership = .operator) :
      Course r fresh [⟨r.fetch, .ok none⟩, ⟨r.deposit fresh, .ok .created⟩]
        (.ok (fresh.credential r.kind, .created))
  | unadopted (ho : r.ownership = .operator) (fault : ClusterFault) :
      Course r fresh [⟨r.fetch, .ok none⟩, ⟨r.deposit fresh, .ok .alreadyExists⟩,
        ⟨r.fetch, .error fault⟩] (.error (.store fault))
  | vanished (ho : r.ownership = .operator) :
      Course r fresh [⟨r.fetch, .ok none⟩, ⟨r.deposit fresh, .ok .alreadyExists⟩,
        ⟨r.fetch, .ok none⟩] (.error (.configuration (.secretNotFound r.name)))
  | adopted (ho : r.ownership = .operator) (fields : SecretFields) :
      Course r fresh [⟨r.fetch, .ok none⟩, ⟨r.deposit fresh, .ok .alreadyExists⟩,
        ⟨r.fetch, .ok (some fields)⟩] (r.taken fields .adopted)

/-- What a pass does with the answer to its first question. -/
theorem ensure_eq (r : CredentialReference) (fresh : Material) :
    r.ensure fresh = .ask r.fetch fun
      | .error fault => .done (.error (.store fault))
      | .ok (some fields) => .done (r.taken fields .existing)
      | .ok none =>
        match r.ownership with
        | .user => .done (.error (.configuration (.secretNotFound r.name)))
        | .operator =>
          .tell (.generatedCredential r.name r.space) (r.persist (fresh.credential r.kind)) := by
  refine congrArg (Dialogue.ask r.fetch) (funext fun a => ?_)
  rcases a with fault | (_ | fields)
  · rfl
  · cases ho : r.ownership with
    | user => rfl
    | operator => rfl
  · cases h : r.extract fields with
    | error e =>
      simp only [taken, misconfigured, h]
      rfl
    | ok c =>
      simp only [taken, misconfigured, h]
      rfl

theorem adopt_gives_iff {x : Except ResolutionError (Credential × Origin)} :
    r.adopt.Gives es x ↔
      (∃ fault, es = [⟨r.fetch, .error fault⟩] ∧ x = .error (.store fault)) ∨
      (es = [⟨r.fetch, .ok none⟩] ∧ x = .error (.configuration (.secretNotFound r.name))) ∨
      ∃ fields, es = [⟨r.fetch, .ok (some fields)⟩] ∧ x = r.taken fields .adopted := by
  rw [adopt, gives_ask]
  constructor
  · rintro ⟨fault | (_ | fields), es', rfl, h⟩
    · obtain ⟨rfl, rfl⟩ := gives_done.mp h
      exact .inl ⟨fault, rfl, rfl⟩
    · obtain ⟨rfl, rfl⟩ := gives_done.mp h
      exact .inr (.inl ⟨rfl, rfl⟩)
    · obtain ⟨rfl, rfl⟩ := gives_done.mp h
      exact .inr (.inr ⟨fields, rfl, rfl⟩)
  · rintro (⟨fault, rfl, rfl⟩ | ⟨rfl, rfl⟩ | ⟨fields, rfl, rfl⟩)
    · exact ⟨_, [], rfl, .refl _⟩
    · exact ⟨_, [], rfl, .refl _⟩
    · exact ⟨_, [], rfl, .refl _⟩

/-- The courses are what a pass does. -/
theorem ensure_gives_iff {x : Except ResolutionError (Credential × Origin)} :
    (r.ensure fresh).Gives es x ↔ r.Course fresh es x := by
  rw [ensure_eq, gives_ask]
  constructor
  · rintro ⟨fault | (_ | fields), es', rfl, h⟩
    · obtain ⟨rfl, rfl⟩ := gives_done.mp h
      exact .unread fault
    · cases ho : r.ownership with
      | user =>
        simp only [ho] at h
        obtain ⟨rfl, rfl⟩ := gives_done.mp h
        exact .missing ho
      | operator =>
        simp only [ho, gives_tell, persist, gives_ask] at h
        obtain ⟨fault | (_ | _), es'', rfl, h⟩ := h
        · obtain ⟨rfl, rfl⟩ := gives_done.mp h
          exact .unstored ho fault
        · obtain ⟨rfl, rfl⟩ := gives_done.mp (gives_tell.mp h)
          exact .created ho
        · rcases adopt_gives_iff.mp (gives_tell.mp h) with
            ⟨fault, rfl, rfl⟩ | ⟨rfl, rfl⟩ | ⟨fields, rfl, rfl⟩
          · exact .unadopted ho fault
          · exact .vanished ho
          · exact .adopted ho fields
    · obtain ⟨rfl, rfl⟩ := gives_done.mp h
      exact .read fields
  · intro h
    cases h with
    | unread fault => exact ⟨_, [], rfl, .refl _⟩
    | read fields => exact ⟨_, [], rfl, .refl _⟩
    | missing ho => exact ⟨_, [], rfl, by simp only [ho]; exact .refl _⟩
    | unstored ho fault => exact ⟨_, _, rfl, by simp only [ho]; exact .tell (.ask (.refl _))⟩
    | created ho => exact ⟨_, _, rfl, by simp only [ho]; exact .tell (.ask (.tell (.refl _)))⟩
    | unadopted ho fault =>
      exact ⟨_, _, rfl, by simp only [ho]; exact .tell (.ask (.tell (.ask (.refl _))))⟩
    | vanished ho =>
      exact ⟨_, _, rfl, by simp only [ho]; exact .tell (.ask (.tell (.ask (.refl _))))⟩
    | adopted ho fields =>
      exact ⟨_, _, rfl, by simp only [ho]; exact .tell (.ask (.tell (.ask (.refl _))))⟩

theorem taken_eq_ok {fields : SecretFields} {origin o : Origin} {c : Credential} :
    r.taken fields origin = .ok (c, o) ↔ r.extract fields = .ok c ∧ o = origin := by
  rw [taken, Except.map_eq_ok]
  constructor
  · rintro ⟨c', h, ⟨⟩⟩
    exact ⟨Except.mapError_eq_ok.mp h, rfl⟩
  · rintro ⟨h, rfl⟩
    exact ⟨c, Except.mapError_eq_ok.mpr h, rfl⟩

/-- The courses that end with a credential: it is read, made, or adopted. -/
theorem course_ok_iff {c : Credential} {o : Origin} : r.Course fresh es (.ok (c, o)) ↔
    (∃ fields, es = [⟨r.fetch, .ok (some fields)⟩] ∧ r.extract fields = .ok c ∧ o = .existing) ∨
    (r.ownership = .operator ∧ es = [⟨r.fetch, .ok none⟩, ⟨r.deposit fresh, .ok .created⟩] ∧
      c = fresh.credential r.kind ∧ o = .created) ∨
    (r.ownership = .operator ∧ ∃ fields,
      es = [⟨r.fetch, .ok none⟩, ⟨r.deposit fresh, .ok .alreadyExists⟩,
        ⟨r.fetch, .ok (some fields)⟩] ∧ r.extract fields = .ok c ∧ o = .adopted) := by
  constructor
  · generalize hx : Except.ok (c, o) = x
    intro h
    cases h with
    | read fields =>
      obtain ⟨hf, ho⟩ := taken_eq_ok.mp hx.symm
      exact .inl ⟨fields, rfl, hf, ho⟩
    | created ho =>
      obtain ⟨rfl, rfl⟩ := Prod.mk.inj (Except.ok.inj hx)
      exact .inr (.inl ⟨ho, rfl, rfl, rfl⟩)
    | adopted ho fields =>
      obtain ⟨hf, hg⟩ := taken_eq_ok.mp hx.symm
      exact .inr (.inr ⟨ho, fields, rfl, hf, hg⟩)
    | unread | missing | unstored | unadopted | vanished => cases hx
  · rintro (⟨fields, rfl, hf, rfl⟩ | ⟨ho, rfl, rfl, rfl⟩ | ⟨ho, fields, rfl, hf, rfl⟩)
    · exact taken_eq_ok.mpr ⟨hf, rfl⟩ ▸ .read fields
    · exact .created ho
    · exact taken_eq_ok.mpr ⟨hf, rfl⟩ ▸ .adopted ho fields

/-- A pass fetches its secret, or deposits there if the operator answers for it. -/
theorem Course.call_eq {x : Except ResolutionError (Credential × Origin)}
    (h : r.Course fresh es x) {e : StoreExchange} (he : e ∈ es) :
    e.1 = r.fetch ∨ r.ownership = .operator ∧ e.1 = r.deposit fresh := by
  cases h with
  | unread | read | missing =>
    obtain rfl := List.mem_singleton.mp he
    exact .inl rfl
  | unstored ho | created ho =>
    rcases List.mem_cons.mp he with rfl | he
    · exact .inl rfl
    · obtain rfl := List.mem_singleton.mp he
      exact .inr ⟨ho, rfl⟩
  | unadopted ho | vanished ho | adopted ho =>
    rcases List.mem_cons.mp he with rfl | he
    · exact .inl rfl
    · rcases List.mem_cons.mp he with rfl | he
      · exact .inr ⟨ho, rfl⟩
      · obtain rfl := List.mem_singleton.mp he
        exact .inl rfl

/-- A pass makes three calls at most. -/
theorem Course.length_le {x : Except ResolutionError (Credential × Origin)}
    (h : r.Course fresh es x) : es.length ≤ 3 := by
  cases h with
  | unread | read | missing | unstored | created | unadopted | vanished | adopted => simp

/-- A credential stood in a secret that the pass read, or in the one that it stored. -/
theorem Course.exists_fields {c : Credential} {o : Origin} (h : r.Course fresh es (.ok (c, o)))
    (hs : r.Sound) : ∃ fields, r.extract fields = .ok c ∧
      (⟨.get r.space r.name, .ok (some fields)⟩ ∈ es ∨
        ⟨.create r.space r.name fields, .ok .created⟩ ∈ es) := by
  rcases course_ok_iff.mp h with ⟨fields, rfl, hf, -⟩ | ⟨ho, rfl, rfl, -⟩ | ⟨-, fields, rfl, hf, -⟩
  · exact ⟨fields, hf, .inl (by simp)⟩
  · exact ⟨_, hs.extract_toFields ho fresh, .inr (by simp)⟩
  · exact ⟨fields, hf, .inl (by simp)⟩

/-- A credential that the user answers for was there before. -/
theorem Course.existing_of_user {c : Credential} {o : Origin} (h : r.Course fresh es (.ok (c, o)))
    (hu : r.ownership = .user) : o = .existing := by
  rcases course_ok_iff.mp h with ⟨-, -, -, ho⟩ | ⟨hoperator, -⟩ | ⟨hoperator, -⟩
  · exact ho
  · rw [hu] at hoperator
    cases hoperator
  · rw [hu] at hoperator
    cases hoperator

/-- A credential that counts as made is one that the operator answers for. -/
theorem Course.operator_of_created {c : Credential} (h : r.Course fresh es (.ok (c, .created))) :
    r.ownership = .operator := by
  rcases course_ok_iff.mp h with ⟨-, -, -, ho⟩ | ⟨hoperator, -⟩ | ⟨hoperator, -⟩
  · cases ho
  · exact hoperator
  · exact hoperator

/-! ## Where a credential comes from -/

section Origin

variable {c : Credential} {o : Origin}

/-- On the way to a credential no call fails. -/
theorem Course.answered (h : r.Course fresh es (.ok (c, o))) :
    ∀ e ∈ es, ∀ fault, e.2 ≠ e.1.failure fault := by
  rcases course_ok_iff.mp h with ⟨fields, rfl, -⟩ | ⟨-, rfl, -⟩ | ⟨-, fields, rfl, -⟩
  · exact List.forall_mem_singleton.mpr nofun
  · exact List.forall_mem_cons.mpr ⟨nofun, List.forall_mem_singleton.mpr nofun⟩
  · refine List.forall_mem_cons.mpr ⟨nofun, ?_⟩
    exact List.forall_mem_cons.mpr ⟨nofun, List.forall_mem_singleton.mpr nofun⟩

/-- A credential counts as made exactly if the pass was told that it made the secret. -/
theorem Course.created_iff (h : r.Course fresh es (.ok (c, o))) :
    o = .created ↔ (⟨r.deposit fresh, .ok .created⟩ : StoreExchange) ∈ es := by
  rcases course_ok_iff.mp h with
    ⟨fields, rfl, -, rfl⟩ | ⟨-, rfl, -, rfl⟩ | ⟨-, fields, rfl, -, rfl⟩
  · simp
  · simp
  · simp

/-- A credential counts as adopted exactly if the pass was told that there was a secret. -/
theorem Course.adopted_iff (h : r.Course fresh es (.ok (c, o))) :
    o = .adopted ↔ (⟨r.deposit fresh, .ok .alreadyExists⟩ : StoreExchange) ∈ es := by
  rcases course_ok_iff.mp h with
    ⟨fields, rfl, -, rfl⟩ | ⟨-, rfl, -, rfl⟩ | ⟨-, fields, rfl, -, rfl⟩
  · simp
  · simp
  · simp

/-- A credential counts as found exactly if the pass did not try to make it. -/
theorem Course.existing_iff (h : r.Course fresh es (.ok (c, o))) :
    o = .existing ↔ ∀ e ∈ es, e.1 ≠ r.deposit fresh := by
  rcases course_ok_iff.mp h with
    ⟨fields, rfl, -, rfl⟩ | ⟨-, rfl, -, rfl⟩ | ⟨-, fields, rfl, -, rfl⟩
  · simp
  · simp
  · simp

/-- A credential that is adopted is what was read behind the attempt to make it. -/
theorem Course.exists_reread (h : r.Course fresh es (.ok (c, .adopted))) : ∃ fields,
    es = [⟨r.fetch, .ok none⟩, ⟨r.deposit fresh, .ok .alreadyExists⟩,
      ⟨r.fetch, .ok (some fields)⟩] ∧ r.extract fields = .ok c := by
  rcases course_ok_iff.mp h with ⟨fields, -, -, ho⟩ | ⟨-, -, -, ho⟩ | ⟨-, fields, hes, hf, -⟩
  · cases ho
  · cases ho
  · exact ⟨fields, hes, hf⟩

/-- A password and keys are never deposited by one call: no key has the length of a password. -/
theorem deposit_ne {r' : CredentialReference} (hk : r.kind = .databasePassword)
    (hk' : r'.kind = .storageKeys) : r.deposit fresh ≠ r'.deposit fresh := by
  intro h
  obtain ⟨-, -, hfields⟩ := StoreCall.create.inj h
  have hpassword : (r.toFields (fresh.credential r.kind)).get? r.primaryKey =
      some fresh.password := by
    simp [hk, toFields, Material.credential, Table.get?_insert]
  rw [hfields, hk'] at hpassword
  have hlength : fresh.password.length = 12 := fresh.password_length
  rcases eq_of_get?_toFields hpassword with haccess | hsecret
  · have hlength' : fresh.password.length = 16 := haccess ▸ fresh.accessKey_length
    omega
  · have hlength' : fresh.password.length = 24 := Option.some.inj hsecret ▸ fresh.secretKey_length
    omega

end Origin

/-- A pass deposits only what the operator answers for and did not find, and only fresh
material. -/
theorem of_asks_create {space name : String} {fields : SecretFields}
    {a : Except ClusterFault CreateOutcome}
    (h : (r.ensure fresh).Asks (es ++ [⟨.create space name fields, a⟩])) :
    r.ownership = .operator ∧ es = [⟨r.fetch, .ok none⟩] ∧
      StoreCall.create space name fields = r.deposit fresh := by
  rw [ensure_eq] at h
  cases es with
  | nil =>
    obtain ⟨a', he, -⟩ := asks_ask_cons.mp h
    cases he
  | cons e es =>
    rw [List.cons_append, asks_ask_cons] at h
    obtain ⟨fault | (_ | found), rfl, h⟩ := h
    · exact absurd h not_asks_done_concat
    · cases ho : r.ownership with
      | user =>
        simp only [ho] at h
        exact absurd h not_asks_done_concat
      | operator =>
        simp only [ho, asks_tell, persist] at h
        cases es with
        | nil =>
          obtain ⟨a', he, -⟩ := asks_ask_cons.mp h
          exact ⟨rfl, rfl, (Sigma.mk.inj he).1⟩
        | cons e es =>
          rw [List.cons_append, asks_ask_cons] at h
          obtain ⟨fault | (_ | _), rfl, h⟩ := h
          · exact absurd h not_asks_done_concat
          · exact absurd (asks_tell.mp h) not_asks_done_concat
          · replace h := asks_tell.mp h
            rw [adopt] at h
            cases es with
            | nil =>
              obtain ⟨a', he, -⟩ := asks_ask_cons.mp h
              cases he
            | cons e es =>
              rw [List.cons_append, asks_ask_cons] at h
              obtain ⟨fault | (_ | found), rfl, h⟩ := h
              all_goals exact absurd h not_asks_done_concat
    · exact absurd h not_asks_done_concat

end CredentialReference

end PipelinesOperator
