import PipelinesOperator.Proofs.Text.Split
import PipelinesOperator.Proofs.Resolution.Choice
import PipelinesOperator.Proofs.Race.Play

/-!
# Names that are derived from an application

The operator names secrets, hosts and config maps after the application that they are for.  The
names of applications are any texts, and may look like a part of such a name themselves; all the same
two derived names are alike only if they are of one kind and for one application.  What a name
begins with tells the kind.  A host ends in the namespace, and that has no dot, so the last dot before
it tells where the name ends.

## Main definitions

* `Names.services`: the services that are deployed for an application
* `Plan.NamedAfter`: plans that take derived names where the user sets none

## Main results

* `Names.serviceHost_inj`: no two services have one host
* `Application.plan_namedAfter`: a plan takes derived names
* `Application.derived_names_apart`: derived names do not collide
-/

namespace PipelinesOperator

/-! ## Hosts and config maps -/

namespace Names

variable {service service' name name' space space' : String}

/-- The services that are deployed for an application. -/
def services : List String := [mariaDb, minio]

/-- A service and a name behind it can be told apart. -/
theorem service_inj (h : service ∈ services) (h' : service' ∈ services)
    (heq : service ++ "-" ++ name = service' ++ "-" ++ name') :
    service = service' ∧ name = name' := by
  simp only [services, List.mem_cons, List.not_mem_nil, or_false] at h h'
  rcases h with rfl | rfl
  · rcases h' with rfl | rfl
    · exact ⟨rfl, (String.append_right_inj _).mp heq⟩
    · exact absurd heq (Text.append_ne_append (by decide) (by decide) name name')
  · rcases h' with rfl | rfl
    · exact absurd heq (Text.append_ne_append (by decide) (by decide) name name')
    · exact ⟨rfl, (String.append_right_inj _).mp heq⟩

/-- No two services have one host, if there is no dot in the namespaces.  The end of all hosts is
the same, and behind the last dot before it stands the namespace. -/
theorem serviceHost_inj (h : service ∈ services) (h' : service' ∈ services)
    (hspace : '.' ∉ space.toList) (hspace' : '.' ∉ space'.toList) :
    serviceHost service name space = serviceHost service' name' space' ↔
      service = service' ∧ name = name' ∧ space = space' := by
  constructor
  · intro heq
    have hlist : (service ++ "-" ++ name).toList ++ '.' :: space.toList =
        (service' ++ "-" ++ name').toList ++ '.' :: space'.toList := by
      simpa using congrArg String.toList ((String.append_left_inj _).mp heq)
    obtain ⟨hbefore, hbehind⟩ := (Text.append_separator_inj hspace hspace').mp hlist
    obtain ⟨rfl, rfl⟩ := service_inj h h' (String.toList_inj.mp hbefore)
    exact ⟨rfl, rfl, String.toList_inj.mp hbehind⟩
  · rintro ⟨rfl, rfl, rfl⟩
    rfl

/-- With a dot in a namespace two services may have one host. -/
example : serviceHost mariaDb "sample.team" "a" = serviceHost mariaDb "sample" "team.a" := by
  decide

theorem artifactScript_ne_userInterfaceConfigMap (name name' : String) :
    artifactScript name ≠ userInterfaceConfigMap name' :=
  Text.append_ne_append (by decide) (by decide) name name'

end Names

/-! ## Plans -/

/-- The operator's own secret for a credential, in a plan. -/
def Plan.operatorSecret (p : Plan) : CredentialKind → CredentialReference
  | .databasePassword => p.database.operatorSecret
  | .storageKeys => p.objectStorage.operatorSecret

/-- A plan for an application in which the operator's secrets are named after the application, and so
are the services that it deploys and the config maps that the user does not name. -/
structure Plan.NamedAfter (p : Plan) (a : Application) : Prop where
  secret : ∀ kind, p.operatorSecret kind = .ofOperator kind p.space p.name
  databaseHost : p.database.external = false →
    p.database.host = Names.serviceHost Names.mariaDb p.name p.space
  storageHost : p.objectStorage.external = false →
    p.objectStorage.host = Names.serviceHost Names.minio p.name p.space
  artifactScript :
    ((a.spec.components.apiServer.bind (·.artifactScriptConfigMap)).filter (·.name ≠ "")) = none →
    p.apiServer.artifactScriptConfigMap.name = Names.artifactScript p.name
  userInterface : ∀ u, p.userInterface = some u →
    nonEmpty (a.spec.components.userInterface.bind (·.configMapName)) = none →
    u.configMapName = Names.userInterfaceConfigMap p.name

namespace Application

variable {r : Registry} {a : Application} {p : Plan}

/-- What a plan takes where the user sets nothing is named after the application. -/
theorem plan_namedAfter (h : a.plan r = .ok p) : p.NamedAfter a := by
  obtain ⟨i, userInterface, storage, hi, hu, ho, rfl⟩ := exists_stages h
  constructor
  case secret =>
    intro kind
    cases kind with
    | databasePassword => exact Plan.databaseOf_operatorSecret ..
    | storageKeys => exact Plan.storageOf_operatorSecret ho
  case databaseHost =>
    intro hmanaged
    rw [planOf, Plan.databaseOf] at hmanaged ⊢
    cases hsource : a.spec.database.source with
    | external e =>
      rw [hsource] at hmanaged
      cases hmanaged
    | managed block => rfl
  case storageHost =>
    intro hmanaged
    rcases Plan.storageOf_eq_ok.mp ho with ⟨e, -, rfl⟩ | ⟨b, -, -, rfl⟩
    · cases hmanaged
    · rfl
  case artifactScript =>
    intro hnone
    have hscript : (((a.spec.components.apiServer.getD {}).artifactScriptConfigMap).filter
        (·.name ≠ "")) = none := by
      cases hblock : a.spec.components.apiServer with
      | none => rfl
      | some block =>
        rw [hblock] at hnone
        exact hnone
    simp only [planOf, Plan.apiServerOf, hscript]
  case userInterface =>
    rintro u hu' hnone
    rw [userInterfacePlan] at hu
    cases hblock : a.spec.components.userInterface with
    | none =>
      rw [hblock] at hu
      cases hu
      cases hu'
    | some block =>
      rw [hblock] at hu hnone
      obtain ⟨u', hmade, rfl⟩ := Except.map_eq_ok.mp hu
      obtain rfl := Option.some.inj hu'
      obtain ⟨-, rfl⟩ := Plan.userInterfaceOf_eq_ok.mp hmade
      have hname : nonEmpty block.configMapName = none := hnone
      rw [Plan.userInterfaceOfBlock, orDefault, hname]
      rfl

/-- Derived names do not collide.  Two secrets of the operator have one place, and two services one
host, only if they are of one kind and for one application; no config map of one kind is named like
one of the other or of another application.  The plans of applications take these names. -/
theorem derived_names_apart :
    (∀ kind kind' space space' name name',
      ((CredentialReference.ofOperator kind space name).space,
          (CredentialReference.ofOperator kind space name).name) =
          ((CredentialReference.ofOperator kind' space' name').space,
            (CredentialReference.ofOperator kind' space' name').name) ↔
        kind = kind' ∧ space = space' ∧ name = name') ∧
    (∀ service ∈ Names.services, ∀ service' ∈ Names.services, ∀ name name' space space',
      '.' ∉ space.toList → '.' ∉ space'.toList →
      (Names.serviceHost service name space = Names.serviceHost service' name' space' ↔
        service = service' ∧ name = name' ∧ space = space')) ∧
    (∀ name name',
      Names.artifactScript name ≠ Names.userInterfaceConfigMap name' ∧
      (Names.artifactScript name = Names.artifactScript name' ↔ name = name') ∧
      (Names.userInterfaceConfigMap name = Names.userInterfaceConfigMap name' ↔ name = name')) ∧
    ∀ r (a : Application) p, a.plan r = .ok p → p.NamedAfter a := by
  refine ⟨?secrets, ?hosts, ?configMaps, ?plans⟩
  case secrets => exact fun _ _ _ _ _ _ => CredentialReference.ofOperator_place_inj
  case hosts =>
    exact fun service h service' h' _ _ _ _ hspace hspace' =>
      Names.serviceHost_inj h h' hspace hspace'
  case configMaps =>
    exact fun name name' => ⟨Names.artifactScript_ne_userInterfaceConfigMap name name',
      String.append_right_inj _, String.append_right_inj _⟩
  case plans => exact fun _ _ _ => plan_namedAfter

/-- An application whose name looks like a name and a namespace, and the plain application. -/
theorem derived_names_apart_dotted :
    Names.serviceHost Names.mariaDb "sample.team" "a" ≠
      Names.serviceHost Names.mariaDb "sample" "team" ∧
    ∃ p, plain.plan ⟨∅⟩ = .ok p ∧
      p.database.host = Names.serviceHost Names.mariaDb "sample" "pipelines" ∧
      p.apiServer.artifactScriptConfigMap.name = Names.artifactScript "sample" := by
  obtain ⟨-, hhosts, -, hplans⟩ := derived_names_apart
  constructor
  · intro heq
    have hname := ((hhosts Names.mariaDb (by decide) Names.mariaDb (by decide) _ _ _ _
      (by decide) (by decide)).mp heq).2.1
    exact absurd hname (by decide)
  · have hp : plain.plan ⟨∅⟩ = .ok (plain.planOf ⟨∅⟩ ⟨"sample", "pipelines", .legacy⟩ none
        (Plan.managedStorage "sample" "pipelines" { deploy := true, image := "minio:1" } false)) :=
      plan_of_stages rfl rfl rfl
    have hnamed := hplans ⟨∅⟩ plain _ hp
    exact ⟨_, hp, hnamed.databaseHost rfl, hnamed.artifactScript rfl⟩

end Application

end PipelinesOperator
