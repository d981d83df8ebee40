import PipelinesOperator.Credential.Pass
import PipelinesOperator.Proofs.Except
import PipelinesOperator.Proofs.Table

/-!
# Credentials in the fields of a secret

A reference finds a credential in a secret exactly when the fields that it names hold the pieces
and no piece is empty.  What is stored for a reference is found by it, as long as the reference
has a key of its own for each piece; the references of the operator do, and so fresh material
can always be read back.

## Main definitions

* `Credential.Whole`: no piece of a credential is empty
* `CredentialReference.Holds`: the fields that a reference names hold the pieces of a credential
* `CredentialReference.Fits`: a reference has a key of its own for each piece of a credential
* `CredentialReference.Sound`: a reference fits the credentials that are made for it

## Main results

* `extract_eq_ok`: what is found in a secret is what its fields hold
* `extract_toFields`: what was stored is found
* `Sound.extract_toFields`: fresh material that was stored is found
* `database_sound`, `storage_sound`: the references of an application are sound
-/

namespace PipelinesOperator

/-- No piece of a credential is empty. -/
structure Credential.Whole (c : Credential) : Prop where
  primary : c.primary ≠ []
  secondary : c.secondary ≠ some []

theorem IsAlphanumeric.of_append {l l' : List UInt8} (h : IsAlphanumeric (l ++ l')) :
    IsAlphanumeric l ∧ IsAlphanumeric l' :=
  ⟨fun b hb => h b (List.mem_append_left l' hb), fun b hb => h b (List.mem_append_right l hb)⟩

theorem Material.credential_whole (m : Material) (kind : CredentialKind) :
    (m.credential kind).Whole := by
  have ne_nil {l : List UInt8} {n : Nat} (hl : l.length = n) (hn : 0 < n) : l ≠ [] :=
    List.ne_nil_of_length_pos (hl ▸ hn)
  cases kind with
  | databasePassword => exact ⟨ne_nil m.password_length (by decide), by simp [credential]⟩
  | storageKeys =>
    refine ⟨ne_nil m.accessKey_length (by decide), ?_⟩
    simpa [credential] using ne_nil m.secretKey_length (by decide)

namespace CredentialReference

variable {r r' : CredentialReference} {fields : SecretFields} {c c' : Credential}

/-- The fields that a reference names hold the pieces of a credential. -/
structure Holds (r : CredentialReference) (fields : SecretFields) (c : Credential) : Prop where
  primary : fields.get? r.primaryKey = some c.primary
  secondary : r.secondaryKey.map fields.get? = c.secondary.map some

/-- A reference has a key of its own for each piece of a credential. -/
structure Fits (r : CredentialReference) (c : Credential) : Prop where
  keys : r.secondaryKey ≠ some r.primaryKey
  pieces : r.secondaryKey.isSome = c.secondary.isSome

/-- References with the same keys find the same. -/
theorem Holds.unique (h : r.Holds fields c) (h' : r'.Holds fields c')
    (hp : r.primaryKey = r'.primaryKey) (hs : r.secondaryKey = r'.secondaryKey) : c = c' := by
  obtain ⟨primary, secondary⟩ := c
  obtain ⟨primary', secondary'⟩ := c'
  have h₁ : some primary = some primary' := by rw [← h.primary, ← h'.primary, hp]
  have h₂ : secondary.map some = secondary'.map some := by
    rw [← h.secondary, ← h'.secondary, hs]
  rw [Option.some.inj h₁, (Option.map_inj_right fun _ _ => Option.some.inj).mp h₂]

theorem field_eq_ok {key : String} {value : List UInt8} :
    r.field fields key = .ok value ↔ fields.get? key = some value ∧ value ≠ [] := by
  rw [field]
  split
  · rename_i b bs h
    rw [h]
    constructor
    · rintro ⟨⟩
      exact ⟨rfl, List.cons_ne_nil b bs⟩
    · rintro ⟨⟨⟩, -⟩
      rfl
  · rename_i h
    constructor
    · rintro ⟨⟩
    · rintro ⟨hf, hv⟩
      obtain ⟨b, bs, rfl⟩ := List.exists_cons_of_ne_nil hv
      exact absurd hf (h b bs)

/-- What is found in a secret is what its fields hold, if no piece is empty. -/
theorem extract_eq_ok : r.extract fields = .ok c ↔ r.Holds fields c ∧ c.Whole := by
  obtain ⟨primary, secondary⟩ := c
  rw [extract, Except.bind_eq_ok]
  cases hk : r.secondaryKey with
  | none =>
    constructor
    · rintro ⟨p, hp, ⟨⟩⟩
      obtain ⟨hp, hp'⟩ := field_eq_ok.mp hp
      exact ⟨⟨hp, by rw [hk]; rfl⟩, hp', by simp⟩
    · rintro ⟨⟨hp, hs⟩, hp', -⟩
      rw [hk] at hs
      obtain rfl : secondary = none := by simpa using hs.symm
      exact ⟨primary, field_eq_ok.mpr ⟨hp, hp'⟩, rfl⟩
  | some key =>
    constructor
    · rintro ⟨p, hp, h⟩
      obtain ⟨s, hs, ⟨⟩⟩ := Except.bind_eq_ok.mp h
      obtain ⟨hp, hp'⟩ := field_eq_ok.mp hp
      obtain ⟨hs, hs'⟩ := field_eq_ok.mp hs
      exact ⟨⟨hp, by rw [hk, Option.map_some, hs]; rfl⟩, hp', by simpa using hs'⟩
    · rintro ⟨⟨hp, hs⟩, hp', hs'⟩
      rw [hk, Option.map_some] at hs
      obtain ⟨s, rfl, hf⟩ := Option.map_eq_some_iff.mp hs.symm
      refine ⟨primary, field_eq_ok.mpr ⟨hp, hp'⟩, Except.bind_eq_ok.mpr ⟨s, ?_, rfl⟩⟩
      exact field_eq_ok.mpr ⟨hf.symm, by simpa using hs'⟩

/-! ## What was stored is found -/

/-- What is stored for a reference that fits stands where the reference looks for it.  With one key
for both pieces the second would take the place of the first. -/
theorem Fits.holds_toFields (h : r.Fits c) : r.Holds (r.toFields c) c := by
  obtain ⟨primary, secondary⟩ := c
  cases hk : r.secondaryKey with
  | none =>
    have hs : secondary = none := by simpa [hk] using h.pieces
    subst hs
    refine ⟨?_, by rw [hk]; rfl⟩
    simp [toFields, hk, Table.get?_insert]
  | some key =>
    obtain ⟨s, rfl⟩ : ∃ s, secondary = some s :=
      Option.isSome_iff_exists.mp (by simpa [hk] using h.pieces.symm)
    have hne : r.primaryKey ≠ key := fun he => h.keys (by rw [hk, he])
    refine ⟨?_, ?_⟩
    · simp [toFields, hk, Table.get?_insert, hne]
    · simp [toFields, hk, Table.get?_insert]

/-- A field of a credential that is stored is one of its pieces. -/
theorem eq_of_get?_toFields {key : String} {value : List UInt8}
    (h : (r.toFields c).get? key = some value) : value = c.primary ∨ c.secondary = some value := by
  have hfirst (h : ((∅ : SecretFields).insert r.primaryKey c.primary).get? key = some value) :
      value = c.primary := by
    rw [Table.get?_insert] at h
    split at h
    · exact (Option.some.inj h).symm
    · cases h
  rw [toFields] at h
  split at h
  · rename_i second hsecond
    rw [Table.get?_insert] at h
    split at h
    · exact .inr (hsecond.trans h)
    · exact .inl (hfirst h)
  · exact .inl (hfirst h)

theorem extract_toFields (h : r.Fits c) (hc : c.Whole) : r.extract (r.toFields c) = .ok c :=
  extract_eq_ok.mpr ⟨h.holds_toFields, hc⟩

/-- A reference fits the credentials that are made for it. -/
def Sound (r : CredentialReference) : Prop :=
  r.ownership = .operator → ∀ fresh : Material, r.Fits (fresh.credential r.kind)

/-- Fresh material that was stored is found. -/
theorem Sound.extract_toFields (h : r.Sound) (ho : r.ownership = .operator) (fresh : Material) :
    r.extract (r.toFields (fresh.credential r.kind)) = .ok (fresh.credential r.kind) :=
  CredentialReference.extract_toFields (h ho fresh) (fresh.credential_whole r.kind)

section References

variable (space application : String)

/-! The references of an application are in its namespace, and each is for its own kind. -/

@[simp] theorem space_database (custom : Option SecretKey) :
    (database space application custom).space = space := by
  cases custom with
  | none | some => rfl

@[simp] theorem kind_database (custom : Option SecretKey) :
    (database space application custom).kind = .databasePassword := by
  cases custom with
  | none | some => rfl

@[simp] theorem space_storage (custom : Option SecretKeyPair) :
    (storage space application custom).space = space := by
  cases custom with
  | none | some => rfl

@[simp] theorem kind_storage (custom : Option SecretKeyPair) :
    (storage space application custom).kind = .storageKeys := by
  cases custom with
  | none | some => rfl

end References

theorem database_sound (space application : String) (custom : Option SecretKey) :
    (database space application custom).Sound := by
  cases custom with
  | none => exact fun _ fresh => ⟨by simp [database], rfl⟩
  | some s => exact fun ho => absurd ho (by simp [database])

theorem storage_sound (space application : String) (custom : Option SecretKeyPair) :
    (storage space application custom).Sound := by
  cases custom with
  | none =>
    have hne : some Names.secretKey ≠ some Names.accessKey := by decide
    exact fun _ fresh => ⟨hne, rfl⟩
  | some s => exact fun ho => absurd ho (by simp [storage])

/-! ## What the operator stores -/

/-- Among the references to a password only that of the operator's secret is the operator's. -/
theorem database_of_operator {space application : String} {custom : Option SecretKey}
    (ho : (database space application custom).ownership = .operator) :
    database space application custom = database space application none := by
  cases custom with
  | none => rfl
  | some s => cases ho

/-- Among the references to keys only that of the operator's secret is the operator's. -/
theorem storage_of_operator {space application : String} {custom : Option SecretKeyPair}
    (ho : (storage space application custom).ownership = .operator) :
    storage space application custom = storage space application none := by
  cases custom with
  | none => rfl
  | some s => cases ho

theorem entries_toFields_database (space application : String) (fresh : Material) :
    ((database space application none).toFields (fresh.credential .databasePassword)).entries =
      [("password", fresh.password)] := rfl

theorem entries_toFields_storage (space application : String) (fresh : Material) :
    ((storage space application none).toFields (fresh.credential .storageKeys)).entries =
      [("accesskey", fresh.accessKey), ("secretkey", fresh.secretKey)] := by
  have hlt : ¬Names.secretKey < Names.accessKey := by decide
  have hne : Names.secretKey ≠ Names.accessKey := by decide
  change Table.insertEntry Names.secretKey fresh.secretKey [(Names.accessKey, fresh.accessKey)] = _
  rw [Table.insertEntry, if_neg hlt, if_neg hne]
  rfl

end CredentialReference

end PipelinesOperator
