import PipelinesOperator.Proofs.Race.Play
import PipelinesOperator.Proofs.Resolution.Choice

/-!
# The parameters agree with each other

The parameters say some things twice: whether a backing service is managed, who answers for its
secret, how it is reached, which images are used.  Whoever reads them takes what is at hand, so what
is said in one place has to agree with what is said in the others, and with what the user asked
for.  The database and the object storage are looked at through one view here.

## Main definitions

* `Database.NamesSecret`, `ObjectStorage.NamesSecret`: the user names a secret for a managed service
* `Backing`: what the parameters say of a backing service, whichever it is
* `Backing.Consistent`: what they say of it agrees
* `Database.Matches`, `ObjectStorage.Matches`: what they say of a service is what is asked for
* `Resolution.Consistent`: what a resolution says agrees, and agrees with the application

## Main results

* `Plan.databaseOf_matches`, `Plan.storageOf_matches`: a planned service, whose secret comes from
  where its reference says
* `Application.consistent_of_resolve`: a resolution agrees with itself
-/

namespace PipelinesOperator

open Dialogue

namespace Database

/-- Somebody else runs the database. -/
def IsExternal (d : Database) : Prop := ∃ e, d.source = .external e

/-- The block of a managed database names a secret for the password. -/
def NamesSecret (d : Database) : Prop :=
  ∃ block secret, d.source = .managed (some block) ∧ block.passwordSecret = some secret ∧
    secret.name ≠ ""

end Database

namespace ObjectStorage

/-- Somebody else runs the object storage. -/
def IsExternal (o : ObjectStorage) : Prop := ∃ e, o.source = some (.external e)

/-- The block of managed object storage names a secret for the keys. -/
def NamesSecret (o : ObjectStorage) : Prop :=
  ∃ block secret, o.source = some (.managed block) ∧ block.credentials = some secret ∧
    secret.secretName ≠ ""

end ObjectStorage

/-- What the parameters say of a backing service. -/
structure Backing where
  managed : Bool
  external : Bool
  credentials : CredentialReference
  operatorSecret : CredentialReference
  origin : Origin

/-- What the parameters say of the database. -/
def Parameters.Database.backing (q : Parameters.Database) : Backing where
  managed := q.managed.isSome
  external := q.connection.external
  credentials := q.connection.credentials
  operatorSecret := q.connection.operatorSecret
  origin := q.connection.passwordOrigin

/-- What the parameters say of the object storage. -/
def Parameters.ObjectStorage.backing (q : Parameters.ObjectStorage) : Backing where
  managed := q.managed.isSome
  external := q.connection.external
  credentials := q.connection.credentials
  operatorSecret := q.connection.operatorSecret
  origin := q.connection.keysOrigin

/-- What is said of a backing service agrees: whether it is managed, who answers for its secret, and
which secret the operator has for it. -/
structure Backing.Consistent (b : Backing) (isExternal namesSecret : Prop)
    (own : CredentialReference) : Prop where
  managed_iff : b.managed = false ↔ b.external = true
  external_iff : b.external = true ↔ isExternal
  user_iff : b.credentials.ownership = .user ↔ isExternal ∨ namesSecret
  credentials_eq : ¬(isExternal ∨ namesSecret) → b.credentials = b.operatorSecret
  operatorSecret_eq : b.operatorSecret = own
  origin_eq : b.credentials.ownership = .user → b.origin = .existing

/-- What the parameters say of a database agrees, and agrees with the database that is asked for. -/
structure Database.Matches (d : Database) (name space : String) (q : Parameters.Database) :
    Prop where
  backing : q.backing.Consistent d.IsExternal d.NamesSecret
    ⟨space, "ds-pipeline-db-" ++ name, "password", none, .operator, .databasePassword⟩
  managed : ∀ m, q.managed = some m →
    q.connection.host = "mariadb-" ++ name ++ "." ++ space ++ ".svc.cluster.local" ∧
    q.connection.port = "3306" ∧ q.connection.username = m.username ∧
    q.connection.dbName = m.dbName

/-- What the parameters say of object storage agrees, and agrees with the object storage that is
asked for. -/
structure ObjectStorage.Matches (o : ObjectStorage) (name space : String)
    (q : Parameters.ObjectStorage) : Prop where
  backing : q.backing.Consistent o.IsExternal o.NamesSecret
    ⟨space, "ds-pipeline-s3-" ++ name, "accesskey", some "secretkey", .operator, .storageKeys⟩
  managed : ∀ m, q.managed = some m →
    q.connection.host = "minio-" ++ name ++ "." ++ space ++ ".svc.cluster.local" ∧
    q.connection.port = "9000" ∧ q.connection.bucket = m.bucket ∧ q.connection.secure = false
  external : ∀ e, o.source = some (.external e) →
    q.connection.secure = e.secure.getD (q.connection.scheme = "https")
  endpoint_of_port : q.connection.port ≠ "" → q.connection.endpoint =
    q.connection.scheme ++ "://" ++ q.connection.host ++ ":" ++ q.connection.port
  endpoint_of_no_port : q.connection.port = "" →
    q.connection.endpoint = q.connection.scheme ++ "://" ++ q.connection.host

/-- What a resolution says agrees, and agrees with what the application asks for. -/
structure Resolution.Consistent (x : Resolution) (a : Application) : Prop where
  name : a.metadata.name = some x.parameters.name
  space : a.metadata.space = some x.parameters.space
  family : Family.resolve x.parameters.dspVersion x.parameters.engineDriver = .ok x.family
  database :
    a.spec.database.Matches x.parameters.name x.parameters.space x.parameters.database
  objectStorage :
    a.spec.objectStorage.Matches x.parameters.name x.parameters.space x.parameters.objectStorage

/-! ## A backing service of either kind -/

namespace Backing

variable {b : Backing} {isExternal namesSecret : Prop} {own : CredentialReference}
  (hown : b.operatorSecret = own)
  (horigin : b.credentials.ownership = .user → b.origin = .existing)
include hown horigin

theorem consistent_of_external (hb : b.managed = false ∧ b.external = true) (he : isExternal)
    (huser : b.credentials.ownership = .user) : b.Consistent isExternal namesSecret own where
  managed_iff := iff_of_true hb.1 hb.2
  external_iff := iff_of_true hb.2 he
  user_iff := iff_of_true huser (.inl he)
  credentials_eq := fun h => absurd (.inl he) h
  operatorSecret_eq := hown
  origin_eq := horigin

theorem consistent_of_managed (hb : b.managed = true ∧ b.external = false) (he : ¬isExternal)
    (huser : b.credentials.ownership = .user ↔ namesSecret)
    (hoperator : ¬namesSecret → b.credentials = b.operatorSecret) :
    b.Consistent isExternal namesSecret own where
  managed_iff := by simp [hb.1, hb.2]
  external_iff := iff_of_false (by simp [hb.2]) he
  user_iff := huser.trans (or_iff_right he).symm
  credentials_eq := fun h => hoperator fun hn => h (.inr hn)
  operatorSecret_eq := hown
  origin_eq := horigin

end Backing

/-! ## References -/

namespace CredentialReference

variable (space name : String)

theorem database_user_iff (custom : Option SecretKey) :
    (database space name custom).ownership = .user ↔ custom.isSome := by
  cases custom with
  | none | some => simp [database]

theorem storage_user_iff (custom : Option SecretKeyPair) :
    (storage space name custom).ownership = .user ↔ custom.isSome := by
  cases custom with
  | none | some => simp [storage]

end CredentialReference

namespace Plan

/-- A custom password is one in a secret with a name. -/
theorem customPassword_isSome {b : MariaDb} :
    (customPassword b).isSome ↔ ∃ secret, b.passwordSecret = some secret ∧ secret.name ≠ "" := by
  rw [customPassword, Option.isSome_map]
  cases b.passwordSecret with
  | none => simp
  | some secret => simp

theorem customKeys_isSome {b : Minio} :
    (customKeys b).isSome ↔ ∃ secret, b.credentials = some secret ∧ secret.secretName ≠ "" := by
  rw [customKeys]
  cases b.credentials with
  | none => simp
  | some secret => simp

theorem namesSecret_database {d : Database} {block : Option MariaDb}
    (h : d.source = .managed block) :
    d.NamesSecret ↔ (customPassword (block.getD { deploy := true })).isSome := by
  rw [Database.NamesSecret, h, customPassword_isSome]
  cases block with
  | none =>
    exact iff_of_false (by rintro ⟨_, _, ⟨⟩, -⟩) (by rintro ⟨_, ⟨⟩, -⟩)
  | some b =>
    constructor
    · rintro ⟨_, secret, ⟨⟩, hsecret, hname⟩
      exact ⟨secret, hsecret, hname⟩
    · rintro ⟨secret, hsecret, hname⟩
      exact ⟨b, secret, rfl, hsecret, hname⟩

theorem namesSecret_objectStorage {o : ObjectStorage} {b : Minio}
    (h : o.source = some (.managed b)) : o.NamesSecret ↔ (customKeys b).isSome := by
  rw [ObjectStorage.NamesSecret, h, customKeys_isSome]
  constructor
  · rintro ⟨_, secret, ⟨⟩, hsecret, hname⟩
    exact ⟨secret, hsecret, hname⟩
  · rintro ⟨secret, hsecret, hname⟩
    exact ⟨b, secret, rfl, hsecret, hname⟩

variable {r : Registry} {name space : String} {origin : Origin}

/-- What is said of a planned database agrees, if a password of the user's was there before. -/
theorem databaseOf_matches (d : Database)
    (horigin : (databaseOf r name space d).credentials.ownership = .user → origin = .existing) :
    d.Matches name space ((databaseOf r name space d).parameters origin) := by
  rw [databaseOf] at horigin ⊢
  cases hsource : d.source with
  | external e =>
    rw [hsource] at horigin
    exact ⟨Backing.consistent_of_external rfl horigin ⟨rfl, rfl⟩ ⟨e, hsource⟩ rfl,
      fun _ hm => by cases hm⟩
  | managed block =>
    rw [hsource] at horigin
    have hexternal : ¬d.IsExternal := by
      rintro ⟨e, he⟩
      rw [hsource] at he
      cases he
    let custom := customPassword (block.getD { deploy := true })
    have hnames : d.NamesSecret ↔ custom.isSome := namesSecret_database hsource
    have huser := (CredentialReference.database_user_iff space name custom).trans hnames.symm
    have hoperator (h : ¬d.NamesSecret) :
        CredentialReference.database space name custom = .database space name none :=
      congrArg _ (Option.not_isSome_iff_eq_none.mp (mt hnames.mpr h))
    refine ⟨Backing.consistent_of_managed rfl horigin ⟨rfl, rfl⟩ hexternal huser hoperator,
      fun m hm => ?_⟩
    obtain rfl := Option.some.inj hm
    exact ⟨rfl, rfl, rfl, rfl⟩

theorem endpoint_of_port {port : String} (h : port ≠ "") (scheme host : String) :
    endpoint scheme host port = scheme ++ "://" ++ host ++ ":" ++ port := if_neg h

theorem endpoint_of_no_port {port : String} (h : port = "") (scheme host : String) :
    endpoint scheme host port = scheme ++ "://" ++ host := if_pos h

/-- What is said of planned object storage agrees, if keys of the user's were there before. -/
theorem storageOf_matches {o : ObjectStorage} {s : StoragePlan}
    (h : storageOf name space o = .ok s)
    (horigin : s.credentials.ownership = .user → origin = .existing) :
    o.Matches name space (s.parameters origin) := by
  rcases storageOf_eq_ok.mp h with ⟨e, he, rfl⟩ | ⟨b, hb, -, rfl⟩
  · exact
      { backing := Backing.consistent_of_external rfl horigin ⟨rfl, rfl⟩ ⟨e, he⟩ rfl
        managed := fun _ hm => by cases hm
        external := fun e' he' => by
          rw [he] at he'
          cases he'
          rfl
        endpoint_of_port := fun hport => endpoint_of_port hport _ _
        endpoint_of_no_port := fun hport => endpoint_of_no_port hport _ _ }
  · have hexternal : ¬o.IsExternal := by
      rintro ⟨e, he⟩
      rw [hb] at he
      cases he
    have hnames : o.NamesSecret ↔ (customKeys b).isSome := namesSecret_objectStorage hb
    have huser := (CredentialReference.storage_user_iff space name (customKeys b)).trans hnames.symm
    have hoperator (h : ¬o.NamesSecret) : CredentialReference.storage space name (customKeys b) =
        .storage space name none :=
      congrArg _ (Option.not_isSome_iff_eq_none.mp (mt hnames.mpr h))
    exact
      { backing := Backing.consistent_of_managed rfl horigin ⟨rfl, rfl⟩ hexternal huser hoperator
        managed := fun m hm => by
          obtain rfl := Option.some.inj hm
          exact ⟨rfl, rfl, rfl, rfl⟩
        external := fun e he => absurd ⟨e, he⟩ hexternal
        endpoint_of_port := fun hport => endpoint_of_port hport _ _
        endpoint_of_no_port := fun hport => endpoint_of_no_port hport _ _ }

end Plan

namespace Application

variable {a : Application} {r : Registry} {fresh : Material} {es : List StoreExchange}
  {x : Resolution}

/-- A credential that the user answers for was there before the resolution. -/
theorem existing_of_user {g : Established} (h : (a.resolve r fresh).Gives es (.ok x))
    (hg : g ∈ x.established) (hu : g.reference.ownership = .user) : g.origin = .existing := by
  obtain ⟨-, _, -, hcourse⟩ := exists_course_of_established h hg
  exact hcourse.existing_of_user hu

/-- Whatever the store answers, what a resolution says agrees, and agrees with what the application
asks for. -/
theorem consistent_of_resolve (h : (a.resolve r fresh).Gives es (.ok x)) : x.Consistent a := by
  have hpassword := existing_of_user h (Resolution.mem_established.mpr (.inl rfl))
  have hkeys := existing_of_user h (Resolution.mem_established.mpr (.inr rfl))
  obtain ⟨p, _, _, password, keys, hp, -, -, -, rfl⟩ := resolve_gives_ok_iff.mp h
  obtain ⟨i, userInterface, storage, hi, -, ho, rfl⟩ := exists_stages hp
  obtain ⟨⟨hname, -⟩, ⟨hspace, -⟩, hfamily⟩ := identify_eq_ok.mp hi
  exact
    { name := hname
      space := hspace
      family := hfamily
      database := Plan.databaseOf_matches a.spec.database hpassword
      objectStorage := Plan.storageOf_matches ho hkeys }

/-- The plain application has a managed database and managed object storage, and names no secret for
either of them. -/
theorem consistent_of_resolve_plain : ∃ es x,
    (plain.resolve ⟨∅⟩ (.repeating 0)).Gives es (.ok x) ∧ x.Consistent plain := by
  let pass := plain.resolve ⟨∅⟩ (.repeating 0)
  obtain ⟨x, hx⟩ : ∃ x, (pass.run SecretStore.answer ⟨[]⟩).result.toOption = some x :=
    Option.isSome_iff_exists.mp (by decide +kernel)
  obtain ⟨es, hes, -⟩ := Dialogue.exists_gives_run SecretStore.answer pass ⟨[]⟩
  rw [Except.toOption_eq_some.mp hx] at hes
  exact ⟨es, x, hes, consistent_of_resolve hes⟩

end Application

end PipelinesOperator
