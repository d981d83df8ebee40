import PipelinesOperator.Proofs.Cluster.Askable
import PipelinesOperator.Proofs.Cluster.Server
import PipelinesOperator.Proofs.Cluster.Target
import PipelinesOperator.Proofs.Credential.Fields

/-!
# Credentials on their way through the cluster

A credential becomes the fields of a secret, these become texts in a document, and on the way back
the document is read, the fields are decoded and the credential is taken out.  With a key of its
own for each piece nothing is lost and nothing is mixed up, whatever the pieces are made of and
whatever else comes to be in the secret; and the texts in the document are those that a manifest
gets to see.

## Main definitions

* `SecretFields.Within`: some fields are among others
* `Secret.Stored stored fields`: a document in which a secret is kept, with at least some fields

## Main results

* `SecretFields.get?_document`: what a secret that is sent has under a key
* `CredentialReference.Fits.mem_keys_toFields`: the keys under which a credential is stored
* `Secret.found_stored`: a secret that is kept is found
* `CredentialReference.credential_survives_cluster`: from a credential to the cluster and back
-/

namespace PipelinesOperator

/-! ## Fields as texts -/

/-- Some fields are among others. -/
def SecretFields.Within (fields more : SecretFields) : Prop :=
  ∀ key value, fields.get? key = some value → more.get? key = some value

/-- A field may be added. -/
theorem SecretFields.Within.insert {fields : SecretFields} {key : String}
    (h : fields.get? key = none) (value : List UInt8) :
    fields.Within (Table.insert fields key value) := by
  intro key' value' hvalue
  rw [Table.get?_insert, if_neg]
  · exact hvalue
  · rintro rfl
    rw [h] at hvalue
    cases hvalue

/-- Under a key of a field stands its base64, and under other keys nothing. -/
theorem SecretFields.get?_document (fields : SecretFields) (key : String) :
    fields.document.get? key =
      (fields.get? key).map fun value => .str (String.ofList (Base64.encode value)) := by
  have hkeys : (fields.document.members.map Prod.fst) = fields.entries.map Prod.fst := by
    simp [document, Json.members, Function.comp_def]
  have hdistinct : Distinct [key] (fields.document.members.map Prod.fst) :=
    hkeys ▸ fields.distinct_keys [key]
  rw [Json.get?_eq_lookup, lookup_reverse hdistinct (List.mem_singleton_self key)]
  exact lookup_map_snd key (fun value => Json.str (String.ofList (Base64.encode value)))
    fields.entries

namespace CredentialReference

variable {r : CredentialReference} {c : Credential} {fields : SecretFields}

/-- A credential is stored under the keys of its reference and under no other. -/
theorem Fits.mem_keys_toFields (h : r.Fits c) {key : String} :
    key ∈ (r.toFields c).keys ↔ key = r.primaryKey ∨ r.secondaryKey = some key := by
  have hpieces := h.pieces
  rw [Table.mem_keys_iff, toFields]
  cases hk : r.secondaryKey with
  | none => simp [Table.get?_insert]
  | some key' =>
    obtain ⟨value, hvalue⟩ : ∃ value, c.secondary = some value :=
      Option.isSome_iff_exists.mp (by rw [← hpieces, hk]; rfl)
    simp only [hvalue, Table.get?_insert, Table.get?_empty, Option.some.injEq]
    by_cases hkey : key = key'
    · simp [hkey]
    · simp [hkey, Ne.symm hkey]

/-- A reference finds in more fields what it finds in some. -/
theorem Holds.within (h : r.Holds fields c) {more : SecretFields} (hmore : fields.Within more) :
    r.Holds more c := by
  obtain ⟨primary, secondary⟩ := c
  refine ⟨hmore _ _ h.primary, ?_⟩
  have hsecondary := h.secondary
  cases hk : r.secondaryKey with
  | none =>
    rw [hk] at hsecondary
    exact hsecondary
  | some key =>
    rw [hk, Option.map_some] at hsecondary
    obtain ⟨value, rfl, hvalue⟩ := Option.map_eq_some_iff.mp hsecondary.symm
    exact congrArg some (hmore key value hvalue.symm)

/-- Under the first key stands the text of the first piece. -/
theorem Fits.get?_document_primary (h : r.Fits c) :
    (r.toFields c).document.get? r.primaryKey = some (.str c.primaryText) := by
  rw [SecretFields.get?_document, h.holds_toFields.primary]
  rfl

/-- Under the second key, if there is one, stands the text of the second piece. -/
theorem Fits.get?_document_secondary (h : r.Fits c) {key : String}
    (hk : r.secondaryKey = some key) :
    (r.toFields c).document.get? key = some (.str c.secondaryText) := by
  have hsecondary := h.holds_toFields.secondary
  rw [hk, Option.map_some] at hsecondary
  obtain ⟨value, hvalue, hfield⟩ := Option.map_eq_some_iff.mp hsecondary.symm
  rw [SecretFields.get?_document, ← hfield, Credential.secondaryText, hvalue]
  rfl

/-- The references of the operator have a key of its own for each piece. -/
theorem secondaryKey_ne_of_operator (space application : String) :
    (∀ custom, (database space application custom).ownership = .operator →
      (database space application custom).secondaryKey ≠
        some (database space application custom).primaryKey) ∧
    ∀ custom, (storage space application custom).ownership = .operator →
      (storage space application custom).secondaryKey ≠
        some (storage space application custom).primaryKey := by
  constructor
  · intro custom ho
    rw [database_of_operator ho]
    exact Option.some_ne_none _ |>.symm
  · intro custom ho
    rw [storage_of_operator ho]
    exact show some Names.secretKey ≠ some Names.accessKey by decide

end CredentialReference

/-! ## Secrets that are kept -/

namespace Secret

variable {stored : Json} {fields : SecretFields}

/-- A document in which a secret is kept that has at least some fields. -/
def Stored (stored : Json) (fields : SecretFields) : Prop :=
  stored.Plain JsonText.maxDepth ∧ ∃ s, shape.ofJson stored = .ok s ∧ fields.Within s.fields

/-- What is sent keeps the fields that are sent, and perhaps others before. -/
theorem stored_write_owned (owner : OwnerReference) (space name : String) {more : SecretFields}
    (h : fields.Within more) : Stored (shape.write (.owned owner space name more)) fields :=
  ⟨plain_write_owned owner space name more 123, _, ofJson_write_owned owner space name more, h⟩

/-- A secret that is kept is found with its fields. -/
theorem found_stored (h : Stored stored fields) {code : UInt16}
    (hcode : ¬(400 ≤ code ∧ code ≤ 599)) :
    ∃ more, found (Server.object code stored) = .ok (some more) ∧ fields.Within more := by
  obtain ⟨hplain, s, hs, hwithin⟩ := h
  refine ⟨s.fields, ?_, hwithin⟩
  rw [found, Server.read_object hcode hplain hs]

section Calls

variable {owner : OwnerReference} {space name : String} {q : Request}

/-- What the store answers of a secret is what is found in the reply. -/
theorem gives_get (hq : getRequest space name = .ok q) (reply : Reply) :
    ((StoreCall.get space name).perform owner).Gives [⟨q, reply⟩] (found reply) := by
  rw [StoreCall.perform, hq, Request.send]
  exact .ask (.refl _)

/-- All that is sent to make a secret is that secret. -/
theorem body_of_gives_create {es : List (Dialogue.Exchange Request fun _ => Reply)}
    {a : Except ClusterFault CreateOutcome}
    (h : ((StoreCall.create space name fields).perform owner).Gives es a) : ∀ e ∈ es,
      e.1.body = some ⟨"application/json", shape.write (.owned owner space name fields)⟩ := by
  rw [StoreCall.perform] at h
  cases hq : createRequest space (.owned owner space name fields) with
  | ok q =>
    rw [hq, Request.send] at h
    obtain ⟨reply, es, rfl, hdone⟩ := Dialogue.gives_ask.mp h
    obtain ⟨rfl, -⟩ := Dialogue.gives_done.mp hdone
    intro e he
    obtain rfl := List.mem_singleton.mp he
    exact (Request.of_eq_ok hq).2.2
  | error fault =>
    rw [hq, Request.send] at h
    obtain ⟨rfl, -⟩ := Dialogue.gives_done.mp h
    exact fun e he => absurd he List.not_mem_nil

/-- In a namespace of a legal name every secret is sent, and what the reply says is passed on. -/
theorem exists_gives_create (hs : LegalName space) (owner : OwnerReference) (name : String)
    (fields : SecretFields) (reply : Reply) :
    ∃ q, ((StoreCall.create space name fields).perform owner).Gives [⟨q, reply⟩] (made reply) := by
  obtain ⟨q, hq⟩ := exists_createRequest hs (.owned owner space name fields)
  refine ⟨q, ?_⟩
  rw [StoreCall.perform, hq, Request.send]
  exact .ask (.refl _)

end Calls

end Secret

namespace CredentialReference

variable {r : CredentialReference} {c : Credential}

/-- **A credential survives its way through the cluster.**  All that is sent for it is one secret,
which is sent in every namespace of a legal name; it has the keys of the reference and no others,
each once, with the texts of the pieces under them.  That secret, with these fields and perhaps
more, is a document in which the credential is kept; and of every such document, in whatever form
the rest of it is, the secret is found and the credential taken out of it is the same.  References
of the operator have a key of its own for each piece. -/
theorem credential_survives_cluster (h : r.Fits c) (hc : c.Whole) (owner : OwnerReference) :
    let secret := Secret.owned owner r.space r.name
    (∀ es a, ((StoreCall.create r.space r.name (r.toFields c)).perform owner).Gives es a →
      ∀ e ∈ es, e.1.body =
        some ⟨"application/json", Secret.shape.write (secret (r.toFields c))⟩) ∧
    (LegalName r.space → ∀ reply, ∃ q,
      ((StoreCall.create r.space r.name (r.toFields c)).perform owner).Gives [⟨q, reply⟩]
        (Secret.made reply)) ∧
    (∃ data, (Secret.shape.write (secret (r.toFields c))).get? "data" = some (.obj data) ∧
      (data.map Prod.fst).Nodup ∧
      (∀ key, key ∈ data.map Prod.fst ↔ key = r.primaryKey ∨ r.secondaryKey = some key) ∧
      (Json.obj data).get? r.primaryKey = some (.str c.primaryText) ∧
      ∀ key, r.secondaryKey = some key →
        (Json.obj data).get? key = some (.str c.secondaryText)) ∧
    (∀ more, (r.toFields c).Within more →
      Secret.Stored (Secret.shape.write (secret more)) (r.toFields c)) ∧
    (∀ stored, Secret.Stored stored (r.toFields c) → ∀ code, ¬(400 ≤ code ∧ code ≤ 599) →
      ∃ fields, Secret.found (Server.object code stored) = .ok (some fields) ∧
        r.extract fields = .ok c ∧ ∀ q, Secret.getRequest r.space r.name = .ok q →
          ((StoreCall.get r.space r.name).perform owner).Gives [⟨q, Server.object code stored⟩]
            (.ok (some fields))) ∧
    ∀ space application,
      (∀ custom, (database space application custom).ownership = .operator →
        (database space application custom).secondaryKey ≠
          some (database space application custom).primaryKey) ∧
      ∀ custom, (storage space application custom).ownership = .operator →
        (storage space application custom).secondaryKey ≠
          some (storage space application custom).primaryKey := by
  intro secret
  refine ⟨fun es a hgives => Secret.body_of_gives_create hgives,
    fun hs reply => Secret.exists_gives_create hs owner r.name (r.toFields c) reply, ?data,
    fun more hmore => Secret.stored_write_owned owner r.space r.name hmore, ?found,
    secondaryKey_ne_of_operator⟩
  case data =>
    have hkeys : (r.toFields c).document.members.map Prod.fst = (r.toFields c).keys := by
      simp [SecretFields.document, Json.members, Table.keys, Function.comp_def]
    refine ⟨(r.toFields c).document.members, rfl, ?_, fun key => ?_, h.get?_document_primary,
      fun key hk => h.get?_document_secondary hk⟩
    · rw [hkeys]
      exact (r.toFields c).nodup_keys
    · rw [hkeys]
      exact h.mem_keys_toFields
  case found =>
    intro stored hstored code hcode
    obtain ⟨fields, hfound, hwithin⟩ := Secret.found_stored hstored hcode
    have hholds := h.holds_toFields.within hwithin
    refine ⟨fields, hfound, extract_eq_ok.mpr ⟨hholds, hc⟩, fun q hq => ?_⟩
    exact hfound ▸ Secret.gives_get hq _

/-- Two keys out of order, pieces of four and of two bytes, and a field that somebody added. -/
theorem credential_survives_cluster_grown :
    let r : CredentialReference := ⟨"pipelines", "keys", "user", some "pass", .user, .storageKeys⟩
    let c : Credential := ⟨[0, 255, 16, 128], some [7, 0]⟩
    let more := Table.insert (r.toFields c) "region" [1, 2, 3]
    let owner : OwnerReference :=
      ⟨Manifest.apiVersion, none, some true, Manifest.kind, "sample", "1"⟩
    let sent := Secret.shape.write (.owned owner r.space r.name (r.toFields c))
    let stored := Secret.shape.write (.owned owner r.space r.name more)
    r.Fits c ∧ c.Whole ∧ c.primaryText = "AP8QgA==" ∧ c.secondaryText = "BwA=" ∧
    (∃ data, sent.get? "data" = some (.obj data) ∧
      (Json.obj data).get? "user" = some (.str c.primaryText) ∧
      (Json.obj data).get? "pass" = some (.str c.secondaryText)) ∧
    ∃ fields q, r.extract fields = .ok c ∧ Secret.getRequest r.space r.name = .ok q ∧
      ((StoreCall.get r.space r.name).perform owner).Gives [⟨q, Server.object 200 stored⟩]
        (.ok (some fields)) := by
  intro r c more owner sent stored
  have hfits : r.Fits c := ⟨by decide, rfl⟩
  have hwhole : c.Whole := ⟨by decide, by decide⟩
  obtain ⟨-, -, ⟨data, hdata, -, -, hprimary, hsecondary⟩, hstored, hfound, -⟩ :=
    credential_survives_cluster hfits hwhole owner
  have hmore : (r.toFields c).Within more := .insert (by decide) [1, 2, 3]
  obtain ⟨fields, -, hextract, hgives⟩ := hfound stored (hstored more hmore) 200 (by decide)
  obtain ⟨q, hq⟩ : ∃ q, Secret.getRequest r.space r.name = .ok q :=
    (Secret.exists_getRequest_iff (by decide)).mpr ⟨by decide, by decide⟩
  exact ⟨hfits, hwhole, by decide, by decide, ⟨data, hdata, hprimary, hsecondary "pass" rfl⟩,
    fields, q, hextract, hq, hgives q hq⟩

end CredentialReference

end PipelinesOperator
