import Mathlib.Data.List.Basic
import PipelinesOperator.Proofs.Credential.Failure
import PipelinesOperator.Proofs.Resolution.Choice
import PipelinesOperator.Proofs.Resolution.Course

/-!
# The flaws of an application

Six things can be wrong with an application that no secret has to be looked at for.  They are
listed here in the order in which they are reported, each told from the application alone.  A
resolution reports the first of them before it asks the store anything; an application without a
flaw has its database password fetched first, and what is wrong from then on is about a secret.

## Main definitions

* `Flaw`, `Flaw.ordered`: the flaws, and the order in which they are reported
* `Flaw.In`, `Flaw.mistake`: when an application has a flaw, and what is reported then
* `Flaw.First`: the flaw of an application that no other one goes before
* `Application.passwordSecret`: the secret with the database password of an application

## Main results

* `Flaw.exists_first_iff`, `Flaw.First.unique`: of the flaws of an application one is the first
* `plan_eq_error_iff`: planning ends with the mistake of the first flaw
* `flaws_reported_before_store`: what a resolution asks and reports, by the flaws
-/

namespace PipelinesOperator

open Dialogue

/-- What can be wrong with an application that no secret has to be looked at for. -/
inductive Flaw where
  /-- There is no name. -/
  | name
  /-- There is no namespace. -/
  | space
  /-- The engine is none of those that the version has. -/
  | engine
  /-- A user interface is asked for, without an image. -/
  | userInterface
  /-- There is no object storage. -/
  | storage
  /-- Object storage is to be managed, without an image. -/
  | storageImage
  deriving DecidableEq, Repr

namespace Flaw

variable {a : Application} {flaw : Flaw}

/-- The flaws in the order in which they are reported. -/
def ordered : List Flaw := [.name, .space, .engine, .userInterface, .storage, .storageImage]

theorem mem_ordered (flaw : Flaw) : flaw ∈ ordered := by
  cases flaw with
  | name | space | engine | userInterface | storage | storageImage => decide

/-- An application has a flaw. -/
def In (a : Application) : Flaw → Prop
  | .name => a.metadata.name = none ∨ a.metadata.name = some ""
  | .space => a.metadata.space = none ∨ a.metadata.space = some ""
  | .engine => a.spec.components.dspVersion = "v2" ∧
      a.spec.components.engineDriver ≠ "argo" ∧ a.spec.components.engineDriver ≠ "tekton"
  | .userInterface => ∃ block, a.spec.components.userInterface = some block ∧ block.image = ""
  | .storage => a.spec.objectStorage.source = none
  | .storageImage => ∃ block, a.spec.objectStorage.source = some (.managed block) ∧ block.image = ""

/-- What is reported of a flaw. -/
def mistake (a : Application) : Flaw → Misconfiguration
  | .name => .missingMetadata "metadata.name"
  | .space => .missingMetadata "metadata.namespace"
  | .engine => .unsupportedEngineDriver a.spec.components.engineDriver
  | .userInterface => .missingUiImage
  | .storage => .missingObjectStorage
  | .storageImage => .missingMinioImage

/-- One flaw is reported before another. -/
def Before (flaw flaw' : Flaw) : Prop := ordered.idxOf flaw < ordered.idxOf flaw'

instance (flaw flaw' : Flaw) : Decidable (flaw.Before flaw') := Nat.decLt _ _

/-- A flaw of an application that no other one goes before. -/
structure First (a : Application) (flaw : Flaw) : Prop where
  here : flaw.In a
  before : ∀ other : Flaw, other.Before flaw → ¬other.In a

/-- No two flaws of an application are the first. -/
theorem First.unique {flaw' : Flaw} (h : First a flaw) (h' : First a flaw') : flaw = flaw' := by
  rcases Nat.lt_trichotomy (ordered.idxOf flaw) (ordered.idxOf flaw') with hlt | heq | hlt
  · exact absurd h.here (h'.before flaw hlt)
  · exact (List.idxOf_inj (mem_ordered flaw)).mp heq
  · exact absurd h'.here (h.before flaw' hlt)

/-- Of the flaws of an application one is the first. -/
theorem exists_first_iff : (∃ flaw, First a flaw) ↔ ∃ flaw, In a flaw := by
  constructor
  · rintro ⟨flaw, h⟩
    exact ⟨flaw, h.here⟩
  · rintro ⟨flaw, h⟩
    induction hn : ordered.idxOf flaw using Nat.strongRecOn generalizing flaw with
    | ind n ih =>
      by_cases hbefore : ∃ other, other.Before flaw ∧ In a other
      · obtain ⟨other, hother, hin⟩ := hbefore
        exact ih (ordered.idxOf other) (hn ▸ hother) other hin rfl
      · exact ⟨flaw, h, fun other hother hin => hbefore ⟨other, hother, hin⟩⟩

end Flaw

/-- A mistake is about a secret: it does not exist, or a field of it is blank. -/
inductive Misconfiguration.AboutSecret : Misconfiguration → Prop where
  | notFound (name : String) : AboutSecret (.secretNotFound name)
  | emptyField (name key : String) : AboutSecret (.emptySecretField name key)

/-- What is reported of a flaw is not about a secret. -/
theorem Flaw.not_aboutSecret_mistake (a : Application) (flaw : Flaw) :
    ¬(flaw.mistake a).AboutSecret := by
  intro h
  cases flaw with
  | name | space | engine | userInterface | storage | storageImage => cases h

namespace CredentialReference

variable {r : CredentialReference} {fresh : Material} {es : List StoreExchange}
  {x : Except ResolutionError (Credential × Origin)}

/-- A pass fetches its secret first. -/
theorem Course.exists_cons (h : r.Course fresh es x) :
    ∃ found behind, es = ⟨r.fetch, found⟩ :: behind := by
  cases h with
  | unread | read | missing | unstored | created | unadopted | vanished | adopted =>
    exact ⟨_, _, rfl⟩

theorem aboutSecret_of_taken {fields : SecretFields} {origin : Origin} {e : Misconfiguration}
    (h : r.taken fields origin = .error (.configuration e)) : e.AboutSecret := by
  cases hx : r.extract fields with
  | ok c =>
    rw [taken, hx] at h
    cases h
  | error mistake =>
    rw [taken, hx] at h
    obtain ⟨key, -, rfl⟩ := extract_eq_error hx
    obtain rfl : Misconfiguration.emptySecretField r.name key = e :=
      ResolutionError.configuration.inj (Except.error.inj h)
    exact .emptyField r.name key

/-- A mistake that a pass meets is about its secret. -/
theorem Course.aboutSecret {e : Misconfiguration}
    (h : r.Course fresh es (.error (.configuration e))) : e.AboutSecret := by
  generalize hx : Except.error (ResolutionError.configuration e) = x at h
  cases h with
  | read fields => exact aboutSecret_of_taken hx.symm
  | adopted ho fields => exact aboutSecret_of_taken hx.symm
  | missing | vanished =>
    obtain rfl := ResolutionError.configuration.inj (Except.error.inj hx)
    exact .notFound r.name
  | unread | unstored | created | unadopted => cases hx

end CredentialReference

/-- Only the second version has engines that do not exist. -/
theorem Family.resolve_eq_error {version driver : String} (hversion : version = "v2")
    (hargo : driver ≠ "argo") (htekton : driver ≠ "tekton") :
    Family.resolve version driver = .error (.unsupportedEngineDriver driver) := by
  rw [Family.resolve, if_pos hversion, EngineDriver.ofText, if_neg hargo, if_neg htekton]
  rfl

theorem Family.exists_resolve {version driver : String}
    (h : ¬(version = "v2" ∧ driver ≠ "argo" ∧ driver ≠ "tekton")) :
    ∃ family, Family.resolve version driver = .ok family := by
  rw [Family.resolve, EngineDriver.ofText]
  by_cases hversion : version = "v2"
  · rw [if_pos hversion]
    by_cases hargo : driver = "argo"
    · exact ⟨.v2 .argo, by rw [if_pos hargo]; rfl⟩
    · have htekton : driver = "tekton" := by
        by_contra htekton
        exact h ⟨hversion, hargo, htekton⟩
      exact ⟨.v2 .tekton, by rw [if_neg hargo, if_pos htekton]; rfl⟩
  · exact ⟨.legacy, if_neg hversion⟩

namespace Plan

theorem customPassword_of_absent {block : MariaDb} (h : block.passwordSecret = none) :
    customPassword block = none := by
  rw [customPassword, h]
  rfl

theorem customPassword_of_unnamed {block : MariaDb} {key : SecretKey}
    (h : block.passwordSecret = some key) (hname : key.name = "") :
    customPassword block = none := by
  rw [customPassword, h, Option.filter_some_neg (by simpa using hname)]
  rfl

theorem customPassword_of_named {block : MariaDb} {key : SecretKey}
    (h : block.passwordSecret = some key) (hname : key.name ≠ "") :
    customPassword block = some ⟨key.name, orDefault (some key.key) Names.passwordKey⟩ := by
  rw [customPassword, h, Option.filter_some_pos (by simpa using hname)]
  rfl

end Plan

namespace Application

variable {r : Registry} {a : Application} {p : Plan} {e : Misconfiguration} {flaw : Flaw}

/-! ## The flaws, stage by stage -/

theorem identify_of_name (h : Flaw.name.In a) : a.identify = .error (Flaw.name.mistake a) := by
  rw [identify, nonEmpty_eq_none.mpr h]
  rfl

theorem identify_of_space (hname : ¬Flaw.name.In a) (h : Flaw.space.In a) :
    a.identify = .error (Flaw.space.mistake a) := by
  obtain ⟨name, hn⟩ := Option.ne_none_iff_exists'.mp (mt nonEmpty_eq_none.mp hname)
  rw [identify, hn]
  simp only [nonEmpty_eq_none.mpr h]
  rfl

/-- An application with a name and a namespace is what its version and its engine say. -/
theorem identify_eq_map (hname : ¬Flaw.name.In a) (hspace : ¬Flaw.space.In a) :
    ∃ name space, a.identify =
      (Family.resolve a.spec.components.dspVersion a.spec.components.engineDriver).map
        fun family => ⟨name, space, family⟩ := by
  obtain ⟨name, hn⟩ := Option.ne_none_iff_exists'.mp (mt nonEmpty_eq_none.mp hname)
  obtain ⟨space, hs⟩ := Option.ne_none_iff_exists'.mp (mt nonEmpty_eq_none.mp hspace)
  refine ⟨name, space, ?_⟩
  rw [identify, hn]
  simp only [hs]

theorem identify_of_engine (hname : ¬Flaw.name.In a) (hspace : ¬Flaw.space.In a)
    (h : Flaw.engine.In a) : a.identify = .error (Flaw.engine.mistake a) := by
  obtain ⟨name, space, hi⟩ := identify_eq_map hname hspace
  rw [hi, Family.resolve_eq_error h.1 h.2.1 h.2.2]
  rfl

theorem exists_identify (hname : ¬Flaw.name.In a) (hspace : ¬Flaw.space.In a)
    (hengine : ¬Flaw.engine.In a) : ∃ identity, a.identify = .ok identity := by
  obtain ⟨name, space, hi⟩ := identify_eq_map hname hspace
  obtain ⟨family, hf⟩ := Family.exists_resolve hengine
  refine ⟨⟨name, space, family⟩, ?_⟩
  rw [hi, hf]
  rfl

theorem userInterfacePlan_of_flaw (h : Flaw.userInterface.In a) (name : String) :
    a.userInterfacePlan name = .error (Flaw.userInterface.mistake a) := by
  obtain ⟨block, hblock, himage⟩ := h
  rw [userInterfacePlan, hblock]
  simp only [Plan.userInterfaceOf, if_pos himage]
  rfl

theorem exists_userInterfacePlan (h : ¬Flaw.userInterface.In a) (name : String) :
    ∃ userInterface, a.userInterfacePlan name = .ok userInterface := by
  rw [userInterfacePlan]
  cases hblock : a.spec.components.userInterface with
  | none => exact ⟨none, rfl⟩
  | some block =>
    have himage : block.image ≠ "" := fun himage => h ⟨block, hblock, himage⟩
    simp only [Plan.userInterfaceOf, if_neg himage]
    exact ⟨_, rfl⟩

theorem storageOf_of_storage (h : Flaw.storage.In a) (name space : String) :
    Plan.storageOf name space a.spec.objectStorage = .error (Flaw.storage.mistake a) := by
  rw [Plan.storageOf, show a.spec.objectStorage.source = none from h]
  rfl

theorem storageOf_of_storageImage (h : Flaw.storageImage.In a) (name space : String) :
    Plan.storageOf name space a.spec.objectStorage = .error (Flaw.storageImage.mistake a) := by
  obtain ⟨block, hblock, himage⟩ := h
  rw [Plan.storageOf, hblock]
  simp only [if_pos himage]
  rfl

theorem exists_storageOf (hstorage : ¬Flaw.storage.In a) (himage : ¬Flaw.storageImage.In a)
    (name space : String) :
    ∃ storage, Plan.storageOf name space a.spec.objectStorage = .ok storage := by
  cases hsource : a.spec.objectStorage.source with
  | none => exact absurd hsource hstorage
  | some source =>
    cases source with
    | external e => exact ⟨_, Plan.storageOf_eq_ok.mpr (.inl ⟨e, hsource, rfl⟩)⟩
    | managed block =>
      have hne : block.image ≠ "" := fun hempty => himage ⟨block, hsource, hempty⟩
      exact ⟨_, Plan.storageOf_eq_ok.mpr (.inr ⟨block, hsource, hne, rfl⟩)⟩

/-! ## Planning -/

section Stages

variable {identity : Identity} {userInterface : Option Parameters.UserInterface}
  {storage : StoragePlan}

theorem plan_of_identify_error (r : Registry) (hi : a.identify = .error e) :
    a.plan r = .error e := Except.bind_of_error hi _

theorem plan_of_userInterface_error (r : Registry) (hi : a.identify = .ok identity)
    (hu : a.userInterfacePlan identity.name = .error e) : a.plan r = .error e :=
  (Except.bind_of_ok hi _).trans (Except.bind_of_error hu _)

theorem plan_of_storage_error (r : Registry) (hi : a.identify = .ok identity)
    (hu : a.userInterfacePlan identity.name = .ok userInterface)
    (hs : Plan.storageOf identity.name identity.space a.spec.objectStorage = .error e) :
    a.plan r = .error e :=
  (Except.bind_of_ok hi _).trans <| (Except.bind_of_ok hu _).trans (Except.bind_of_error hs _)

theorem exists_plan_of_stages (r : Registry) (hi : a.identify = .ok identity)
    (hu : a.userInterfacePlan identity.name = .ok userInterface)
    (hs : Plan.storageOf identity.name identity.space a.spec.objectStorage = .ok storage) :
    ∃ p, a.plan r = .ok p :=
  ⟨_, (Except.bind_of_ok hi _).trans <| (Except.bind_of_ok hu _).trans (Except.bind_of_ok hs _)⟩

end Stages

/-- Planning ends with the mistake of the first flaw.  The flaws before it are not there, so
planning gets as far as its stage. -/
theorem plan_of_first (r : Registry) (h : flaw.First a) : a.plan r = .error (flaw.mistake a) := by
  have hidentified (hengine : Flaw.engine.Before flaw) : ∃ identity, a.identify = .ok identity :=
    exists_identify (h.before .name (Nat.lt_trans (by decide) hengine))
      (h.before .space (Nat.lt_trans (by decide) hengine)) (h.before .engine hengine)
  cases flaw with
  | name => exact plan_of_identify_error r (identify_of_name h.here)
  | space =>
    exact plan_of_identify_error r (identify_of_space (h.before .name (by decide)) h.here)
  | engine =>
    have hname := h.before .name (by decide)
    have hspace := h.before .space (by decide)
    exact plan_of_identify_error r (identify_of_engine hname hspace h.here)
  | userInterface =>
    obtain ⟨identity, hi⟩ := hidentified (by decide)
    exact plan_of_userInterface_error r hi (userInterfacePlan_of_flaw h.here identity.name)
  | storage =>
    obtain ⟨identity, hi⟩ := hidentified (by decide)
    obtain ⟨_, hu⟩ := exists_userInterfacePlan (h.before .userInterface (by decide)) identity.name
    exact plan_of_storage_error r hi hu (storageOf_of_storage h.here identity.name identity.space)
  | storageImage =>
    obtain ⟨identity, hi⟩ := hidentified (by decide)
    obtain ⟨_, hu⟩ := exists_userInterfacePlan (h.before .userInterface (by decide)) identity.name
    exact plan_of_storage_error r hi hu
      (storageOf_of_storageImage h.here identity.name identity.space)

/-- An application without a flaw has a plan. -/
theorem exists_plan (r : Registry) (h : ∀ flaw : Flaw, ¬flaw.In a) : ∃ p, a.plan r = .ok p := by
  obtain ⟨identity, hi⟩ := exists_identify (h .name) (h .space) (h .engine)
  obtain ⟨_, hu⟩ := exists_userInterfacePlan (h .userInterface) identity.name
  obtain ⟨_, hs⟩ :=
    exists_storageOf (h .storage) (h .storageImage) identity.name identity.space
  exact exists_plan_of_stages r hi hu hs

theorem plan_eq_error_iff : a.plan r = .error e ↔
    ∃ flaw : Flaw, flaw.First a ∧ e = flaw.mistake a := by
  constructor
  · intro hp
    by_cases hflawed : ∃ flaw : Flaw, flaw.In a
    · obtain ⟨flaw, hfirst⟩ := Flaw.exists_first_iff.mpr hflawed
      rw [plan_of_first r hfirst] at hp
      exact ⟨flaw, hfirst, (Except.error.inj hp).symm⟩
    · obtain ⟨p, hp'⟩ := exists_plan r (not_exists.mp hflawed)
      rw [hp] at hp'
      cases hp'
  · rintro ⟨flaw, hfirst, rfl⟩
    exact plan_of_first r hfirst

/-! ## The first question -/

/-- The secret with the database password of an application: the one that the user names, if it is
for an external database or has a name at all, and else the operator's. -/
def passwordSecret (a : Application) (name : String) : String :=
  match a.spec.database.source with
  | .external e => e.passwordSecret.name
  | .managed none => "ds-pipeline-db-" ++ name
  | .managed (some block) =>
    match block.passwordSecret with
    | none => "ds-pipeline-db-" ++ name
    | some key => if key.name = "" then "ds-pipeline-db-" ++ name else key.name

/-- A plan fetches its password from the secret that the application says.  A secret without a name
counts as none that is named. -/
theorem fetch_of_plan (hp : a.plan r = .ok p) :
    p.database.credentials.fetch = .get p.space (a.passwordSecret p.name) := by
  obtain ⟨-, -, -, hdatabase⟩ := plan_eq_ok hp
  rw [hdatabase, Plan.databaseOf, passwordSecret]
  cases hsource : a.spec.database.source with
  | external e => rfl
  | managed block =>
    cases block with
    | none => rfl
    | some block =>
      change (CredentialReference.database p.space p.name (Plan.customPassword block)).fetch = _
      cases hkey : block.passwordSecret with
      | none =>
        rw [Plan.customPassword_of_absent hkey]
        simp only [hkey]
        rfl
      | some key =>
        by_cases hname : key.name = ""
        · rw [Plan.customPassword_of_unnamed hkey hname]
          simp only [hkey, if_pos hname]
          rfl
        · rw [Plan.customPassword_of_named hkey hname]
          simp only [hkey, if_neg hname]
          rfl

/-- With a plan, a resolution fetches the password first, and every mistake that it meets is about a
secret. -/
theorem resolve_gives_fetch {fresh : Material} {es : List StoreExchange}
    {x : Except ResolutionError Resolution} (hp : a.plan r = .ok p)
    (h : (a.resolve r fresh).Gives es x) :
    (∃ found behind, es = ⟨p.database.credentials.fetch, found⟩ :: behind) ∧
      ∀ e, x = .error (.configuration e) → e.AboutSecret := by
  rcases (resolve_gives_of_plan hp).mp h with
    ⟨e, hcourse, rfl⟩ | ⟨es₁, es₂, password, rfl, hpassword, hkeys⟩
  · refine ⟨hcourse.exists_cons, ?_⟩
    rintro e' ⟨⟩
    exact hcourse.aboutSecret
  · obtain ⟨found, behind, rfl⟩ := hpassword.exists_cons
    refine ⟨⟨found, behind ++ es₂, rfl⟩, ?_⟩
    rintro e' rfl
    rcases hkeys with ⟨e, hcourse, he⟩ | ⟨keys, -, ⟨⟩⟩
    · obtain rfl := Except.error.inj he
      exact hcourse.aboutSecret

/-- A resolution asks the store nothing exactly when its application has a flaw, and reports the
first of its flaws then.  Without a flaw it fetches the database password first, and every mistake
that it reports is about a secret, and so none that a flaw of any application is reported by.
Nothing is assumed of the store. -/
theorem flaws_reported_before_store {σ : Type} (answer : (call : StoreCall) → σ → call.Answer × σ)
    (a : Application) (r : Registry) (fresh : Material) (s : σ) :
    let asked := questions answer (a.resolve r fresh) s
    let result := (run answer (a.resolve r fresh) s).result
    (asked = [] ↔ ∃ flaw : Flaw, flaw.In a) ∧
    (asked = [] → ∃ flaw : Flaw, flaw.First a ∧
      result = .error (.configuration (flaw.mistake a))) ∧
    (asked ≠ [] → ∃ name space, a.metadata.name = some name ∧ a.metadata.space = some space ∧
      asked.head? = some (.get space (a.passwordSecret name)) ∧
      ∀ e, result = .error (.configuration e) →
        e.AboutSecret ∧ ∀ (flaw : Flaw) (b : Application), e ≠ flaw.mistake b) := by
  intro asked result
  obtain ⟨es, hgives, hfollows⟩ := exists_gives_run answer (a.resolve r fresh) s
  have hasked : asked = es.map Sigma.fst := (hgives.run_eq hfollows).2.2
  by_cases hflawed : ∃ flaw : Flaw, flaw.In a
  · obtain ⟨flaw, hfirst⟩ := Flaw.exists_first_iff.mpr hflawed
    obtain ⟨rfl, hresult⟩ := (resolve_gives_of_mistake (plan_of_first r hfirst)).mp hgives
    exact ⟨iff_of_true hasked hflawed, fun _ => ⟨flaw, hfirst, hresult⟩, fun h => absurd hasked h⟩
  · obtain ⟨p, hp⟩ := exists_plan r (not_exists.mp hflawed)
    obtain ⟨⟨found, behind, rfl⟩, habout⟩ := resolve_gives_fetch hp hgives
    obtain ⟨hname, hspace⟩ := plan_metadata hp
    have hne : asked ≠ [] := hasked ▸ List.cons_ne_nil _ _
    refine ⟨iff_of_false hne hflawed, fun h => absurd h hne, fun _ => ?_⟩
    refine ⟨p.name, p.space, hname, hspace, ?_, fun e he => ?_⟩
    · rw [hasked, ← fetch_of_plan hp]
      rfl
    · have hsecret : e.AboutSecret := habout e he
      refine ⟨hsecret, fun flaw b heq => ?_⟩
      rw [heq] at hsecret
      exact flaw.not_aboutSecret_mistake b hsecret

end Application

end PipelinesOperator
