import PipelinesOperator.Proofs.Race.Play

/-!
# Passes that stay apart

The operator names the secrets that it makes after their application, and it makes no others.  So
passes over applications of different names or namespaces write to different places, and as long
as no user refers one application to a secret that the operator names after another, none of them
can see what the others do.  Each pass then is in the same position as if it had the store to
itself: it hears the same answers, returns the same result and adds the same secrets.

## Main definitions

* `Application.owned`: the places of the secrets that the operator names after an application
* `Application.borrowed`: the places of the user's secrets that an application refers to
* `Entrant.Apart`: two entrants neither of which can see what the other's pass writes
* `Entrant.alone`: what comes of a pass that has the store to itself
* `Happening.Answered`: a call that was answered by a store that does not fail
* `Shadows`: the stores that the passes would have before them, had each been alone

## Main results

* `Shadows.call`: the stores after one more call
* `Run.exists_shadows`: the passes of a run hear what they would hear alone
* `apart_passes_do_not_interfere`: passes that stay apart return what each returns alone
-/

namespace PipelinesOperator

open Dialogue

namespace Application

/-- The references in the plan of an application, if it has a plan. -/
def references (a : Application) (r : Registry) : List CredentialReference :=
  match a.plan r with
  | .ok p => [p.database.credentials, p.objectStorage.credentials]
  | .error _ => []

/-- The places of the two secrets that the operator names after an application. -/
def owned (a : Application) : List (String × String) :=
  match a.metadata.space, a.metadata.name with
  | some space, some name =>
    [(space, "ds-pipeline-db-" ++ name), (space, "ds-pipeline-s3-" ++ name)]
  | _, _ => []

/-- The places of the user's secrets that an application refers to. -/
def borrowed (a : Application) (r : Registry) : List (String × String) :=
  ((a.references r).filter fun ref => ref.ownership = .user).map fun ref => (ref.space, ref.name)

variable {a b : Application} {r : Registry} {ref : CredentialReference}

theorem mem_references : ref ∈ a.references r ↔
    ∃ p, a.plan r = .ok p ∧ (ref = p.database.credentials ∨ ref = p.objectStorage.credentials) := by
  rw [references]
  cases hp : a.plan r with
  | error e => simp
  | ok p => simp

theorem mem_borrowed {place : String × String} : place ∈ a.borrowed r ↔
    ∃ ref ∈ a.references r, ref.ownership = .user ∧ (ref.space, ref.name) = place := by
  simp [borrowed, and_assoc]

/-- A secret that the operator answers for is one that it names after the application. -/
theorem mem_owned_of_operator (href : ref ∈ a.references r) (ho : ref.ownership = .operator) :
    (ref.space, ref.name) ∈ a.owned := by
  obtain ⟨p, hp, href⟩ := mem_references.mp href
  obtain ⟨hname, hspace⟩ := plan_metadata hp
  rw [owned, hname, hspace]
  rcases href with rfl | rfl
  · obtain ⟨custom, hc⟩ := plan_database hp
    rw [hc] at ho ⊢
    rw [CredentialReference.database_of_operator ho]
    exact List.mem_cons_self
  · obtain ⟨custom, hc⟩ := plan_storage hp
    rw [hc] at ho ⊢
    rw [CredentialReference.storage_of_operator ho]
    exact List.mem_cons_of_mem _ List.mem_cons_self

theorem exists_kind_of_mem_owned {place : String × String} (h : place ∈ a.owned) :
    ∃ kind space name, a.metadata.space = some space ∧ a.metadata.name = some name ∧
      place = ((CredentialReference.ofOperator kind space name).space,
        (CredentialReference.ofOperator kind space name).name) := by
  rw [owned] at h
  split at h
  · rename_i space name hspace hname
    simp only [List.mem_cons, List.not_mem_nil, or_false] at h
    rcases h with rfl | rfl
    · exact ⟨.databasePassword, space, name, hspace, hname, rfl⟩
    · exact ⟨.storageKeys, space, name, hspace, hname, rfl⟩
  · exact absurd h List.not_mem_nil

/-- The operator names no two secrets alike, so one place of both would give both applications one
namespace and one name. -/
theorem not_mem_owned_of_mem_owned
    (hne : (a.metadata.space, a.metadata.name) ≠ (b.metadata.space, b.metadata.name))
    {place : String × String} (h : place ∈ a.owned) : place ∉ b.owned := by
  intro h'
  obtain ⟨kind, space, name, hspace, hname, hplace⟩ := exists_kind_of_mem_owned h
  obtain ⟨kind', space', name', hspace', hname', hplace'⟩ := exists_kind_of_mem_owned h'
  obtain ⟨-, rfl, rfl⟩ := CredentialReference.ofOperator_place_inj.mp (hplace.symm.trans hplace')
  exact hne (by rw [hspace, hname, hspace', hname'])

end Application

namespace Entrant

/-- Two entrants of different names or namespaces, neither of which refers to a secret that the
operator names after the other. -/
structure Apart (e e' : Entrant) : Prop where
  identity : (e.application.metadata.space, e.application.metadata.name) ≠
    (e'.application.metadata.space, e'.application.metadata.name)
  borrows : ∀ place ∈ e.application.borrowed e.registry, place ∉ e'.application.owned
  lends : ∀ place ∈ e'.application.borrowed e'.registry, place ∉ e.application.owned

/-- What comes of a pass that has the store to itself. -/
def alone (e : Entrant) (store : SecretStore) :
    Outcome SecretStore (Except ResolutionError Resolution) :=
  run SecretStore.answer e.pass store

variable {e e' : Entrant}

/-- Where the one entrant may write, the other looks for nothing. -/
theorem Apart.place_ne (h : e.Apart e') {ref ref' : CredentialReference}
    (href : ref ∈ e.application.references e.registry) (ho : ref.ownership = .operator)
    (href' : ref' ∈ e'.application.references e'.registry) :
    (ref'.space, ref'.name) ≠ (ref.space, ref.name) := by
  intro heq
  have howned := Application.mem_owned_of_operator href ho
  cases ho' : ref'.ownership with
  | user =>
    have hborrowed := Application.mem_borrowed.mpr ⟨ref', href', ho', heq⟩
    exact h.lends _ hborrowed howned
  | operator =>
    have howned' := Application.mem_owned_of_operator href' ho'
    rw [heq] at howned'
    exact Application.not_mem_owned_of_mem_owned h.identity howned howned'

/-- A call that a pass makes next is about the secret of one of its references, and is a deposit
only if the operator answers for that one. -/
theorem exists_reference_of_asks {es : List StoreExchange} {q : StoreCall} {x : q.Answer}
    (h : e.pass.Asks (es ++ [⟨q, x⟩])) :
    ∃ ref ∈ e.application.references e.registry,
      q = ref.fetch ∨ ref.ownership = .operator ∧ q = ref.deposit e.fresh := by
  obtain ⟨es', y, hgives⟩ := h.exists_gives
  have hmem : (⟨q, x⟩ : StoreExchange) ∈ es ++ [⟨q, x⟩] ++ es' := by simp
  obtain ⟨p, ref, hp, href, hq⟩ := Application.call_eq_of_resolve_gives hgives hmem
  exact ⟨ref, Application.mem_references.mpr ⟨p, hp, href⟩, hq⟩

end Entrant

/-- A call that a store answered without a failure. -/
def Happening.Answered {ι : Type} (h : Happening ι) : Prop :=
  ∃ i q, h.act = .call i ⟨q, (SecretStore.answer q h.before).1⟩ ∧
    h.after = (SecretStore.answer q h.before).2

variable {ι : Type} [DecidableEq ι]

/-- A pass has a call left, and the store can answer it. -/
def Scene.Calls (c : Scene ι) (i : ι) : Prop :=
  ∃ q c', Scene.Step c (.call i ⟨q, (SecretStore.answer q c.store).1⟩) c' ∧
    c'.store = (SecretStore.answer q c.store).2

/-! ## The stores that the passes would see alone -/

variable {entrant : ι → Entrant} {store now : SecretStore} {hs : List (Happening ι)} {i j : ι}

/-- For each pass the store that it would have before it by now, had it been alone from the
beginning. -/
structure Shadows (entrant : ι → Entrant) (store : SecretStore) (hs : List (Happening ι))
    (now : SecretStore) (own : ι → SecretStore) : Prop where
  /-- What a pass heard, it would have heard alone. -/
  follows : ∀ i, Follows SecretStore.answer (heard i hs) store (own i)
  /-- A pass sees no difference where it looks. -/
  agree : ∀ i, ∀ ref ∈ (entrant i).application.references (entrant i).registry,
    now.get? ref.space ref.name = (own i).get? ref.space ref.name
  /-- Nothing was lost. -/
  kept : store.Grows now
  /-- What a pass would have added alone was added. -/
  grows : ∀ i, (own i).Grows now
  /-- Nothing else was added. -/
  source : ∀ space name fields, now.get? space name = some fields →
    store.get? space name = some fields ∨
      store.get? space name = none ∧ ∃ i, (own i).get? space name = some fields

/-- One answered call of one pass, whose own store answers it in the same way.  The two agree on the
secret that the call is about, and the call changes only what no other pass looks for. -/
theorem Shadows.call {own : ι → SecretStore} (hown : Shadows entrant store hs now own)
    (apart : ∀ i j, i ≠ j → (entrant i).Apart (entrant j)) {q : StoreCall}
    (hq : ∃ ref ∈ (entrant j).application.references (entrant j).registry,
      q = ref.fetch ∨ ref.ownership = .operator ∧ q = ref.deposit (entrant j).fresh)
    {h : Happening ι} (hact : h.act = .call j ⟨q, (SecretStore.answer q now).1⟩) :
    Shadows entrant store (hs ++ [h]) (SecretStore.answer q now).2
      (Function.update own j (SecretStore.answer q (own j)).2) := by
  obtain ⟨ref, href, hq⟩ := hq
  have hplace : q.place = (ref.space, ref.name) := by
    rcases hq with rfl | ⟨-, rfl⟩
    · rfl
    · rfl
  have hsame : now.get? q.place.1 q.place.2 = (own j).get? q.place.1 q.place.2 := by
    rw [hplace]
    exact hown.agree j ref href
  obtain ⟨hanswer, hbehind⟩ := SecretStore.answer_congr hsame
  have hgrows := SecretStore.answer_grows q now
  constructor
  case follows =>
    intro i
    rw [heard_append, heard_singleton, hact]
    by_cases hij : j = i
    · subst hij
      rw [Function.update_self, follows_append]
      refine ⟨own j, hown.follows j, ?_⟩
      rw [Act.heard?, if_pos rfl]
      exact ⟨hanswer, rfl⟩
    · rw [Function.update_of_ne (Ne.symm hij), Act.heard?, if_neg hij]
      simpa using hown.follows i
  case agree =>
    intro i ref' href'
    by_cases hij : j = i
    · -- the pass that calls
      subst hij
      rw [Function.update_self]
      exact hbehind _ _ (hown.agree j ref' href')
    · -- another pass, which looks for nothing that the call may change
      rw [Function.update_of_ne (Ne.symm hij), ← hown.agree i ref' href']
      rcases hq with rfl | ⟨ho, rfl⟩
      · rfl
      · refine SecretStore.get?_answer_of_ne ?_
        rw [hplace]
        exact (apart j i hij).place_ne href ho href'
  case kept => exact hown.kept.trans hgrows
  case grows =>
    intro i
    by_cases hij : j = i
    · subst hij
      rw [Function.update_self]
      exact (hown.grows j).answer hsame.symm
    · rw [Function.update_of_ne (Ne.symm hij)]
      exact (hown.grows i).trans hgrows
  case source =>
    intro space name fields hheld
    cases hnow : now.get? space name with
    | some fields' =>
      have hkept := hgrows _ _ _ hnow
      obtain rfl : fields' = fields := Option.some.inj (hkept.symm.trans hheld)
      refine (hown.source space name fields' hnow).imp_right ?_
      rintro ⟨hnone, i, hi⟩
      refine ⟨hnone, i, ?_⟩
      by_cases hij : j = i
      · subst hij
        rw [Function.update_self]
        exact SecretStore.answer_grows q (own j) _ _ _ hi
      · rwa [Function.update_of_ne (Ne.symm hij)]
    | none =>
      obtain rfl := SecretStore.create_of_answer_added hnow hheld
      have hnone : store.get? space name = none := by
        cases hstore : store.get? space name with
        | none => rfl
        | some old =>
          exact absurd ((hown.kept _ _ _ hstore).symm.trans hnow) (Option.some_ne_none old)
      refine .inr ⟨hnone, j, ?_⟩
      rw [Function.update_self, ← hbehind space name hsame]
      exact hheld

namespace Run

variable {c : Scene ι}

/-- Among answered calls nobody is cut off. -/
theorem exists_rest (run : Run (Scene.start entrant store) hs c)
    (answered : ∀ h ∈ hs, h.Answered) (i : ι) : ∃ d, c.rest i = some d := by
  induction run with
  | start => exact ⟨_, rfl⟩
  | @step hs act c' c'' run hstep ih =>
    obtain ⟨d, hd⟩ := ih fun h hh => answered h (List.mem_append_left _ hh)
    obtain ⟨j, q, hact, -⟩ := answered _ (List.mem_append_right hs (List.mem_singleton_self _))
    cases hstep with
    | call hd' path served =>
      rename_i k _ d' _ _
      by_cases hk : i = k
      · exact ⟨d', by rw [hk]; exact Function.update_self ..⟩
      · exact ⟨d, by rw [← hd]; exact Function.update_of_ne hk ..⟩
    | cut => cases hact
    | outside => cases hact

/-- The passes of a run hear what they would hear alone. -/
theorem exists_shadows (run : Run (Scene.start entrant store) hs c)
    (answered : ∀ h ∈ hs, h.Answered)
    (apart : ∀ i j, i ≠ j → (entrant i).Apart (entrant j)) :
    ∃ own, Shadows entrant store hs c.store own := by
  induction run with
  | start =>
    refine ⟨fun _ => store, ?_⟩
    constructor
    case follows => exact fun _ => rfl
    case agree => exact fun _ _ _ => rfl
    case kept => exact .refl store
    case grows => exact fun _ => .refl store
    case source => exact fun _ _ _ hheld => .inl hheld
  | @step hs act c' c'' run hstep ih =>
    obtain ⟨own, hown⟩ := ih fun h hh => answered h (List.mem_append_left _ hh)
    obtain ⟨j, q, hact, hafter⟩ :=
      answered _ (List.mem_append_right hs (List.mem_singleton_self _))
    change act = _ at hact
    obtain ⟨d, d', q', x, hd, hpath, -, hcall⟩ := hstep.exists_call (i := j) (by rw [hact]; rfl)
    rw [hact] at hcall
    have hsame : (⟨q', x⟩ : StoreExchange) = ⟨q, (SecretStore.answer q c'.store).1⟩ := by
      rcases hcall with hcall | hcall
      · exact (Act.call.inj hcall).2.symm
      · cases hcall
    obtain ⟨d₀, hd₀, hheard⟩ := run.path hd
    obtain rfl := Option.some.inj hd₀
    have hasks : (entrant j).pass.Asks (heard j hs ++ [⟨q', x⟩]) := ⟨d', hheard.trans hpath⟩
    rw [hsame] at hasks
    change c''.store = _ at hafter
    rw [hafter]
    exact ⟨_, hown.call apart (Entrant.exists_reference_of_asks hasks) hact⟩

/-- A pass that is over has returned what it returns alone, and has made of its own store what it
makes of one alone. -/
theorem eq_alone_of_returned (run : Run (Scene.start entrant store) hs c)
    {own : ι → SecretStore} (hown : Shadows entrant store hs c.store own)
    {x : Except ResolutionError Resolution} (hx : c.Returned i x) :
    x = ((entrant i).alone store).result ∧ own i = ((entrant i).alone store).state := by
  obtain ⟨hresult, hstate, -⟩ := (run.gives_of_returned hx).run_eq (hown.follows i)
  exact ⟨hresult.symm, hstate.symm⟩

/-- A pass makes six calls at most, over or not. -/
theorem length_heard_le (run : Run (Scene.start entrant store) hs c)
    (answered : ∀ h ∈ hs, h.Answered) (i : ι) : (heard i hs).length ≤ 6 := by
  obtain ⟨d, hd⟩ := run.exists_rest answered i
  obtain ⟨d₀, hd₀, hheard⟩ := run.path hd
  obtain rfl := Option.some.inj hd₀
  obtain ⟨es', y, hgives⟩ := Asks.exists_gives ⟨d, hheard⟩
  have hle := Application.length_le_of_resolve_gives hgives
  rw [List.length_append] at hle
  exact Nat.le_of_add_right_le hle

/-- A pass that is not over has a call left. -/
theorem returned_or_calls (run : Run (Scene.start entrant store) hs c)
    (answered : ∀ h ∈ hs, h.Answered) (i : ι) : (∃ x, c.Returned i x) ∨ c.Calls i := by
  obtain ⟨d, hd⟩ := run.exists_rest answered i
  rcases d.over_or_asks with ⟨x, hx⟩ | ⟨q, hq⟩
  · exact .inl ⟨x, d, hd, hx⟩
  · obtain ⟨d', hpath⟩ := hq (SecretStore.answer q c.store).1
    exact .inr ⟨q, _, .call hd hpath (.answered q c.store), rfl⟩

end Run

/-- Passes over applications of different names or namespaces, none of which refers to a secret
that the operator names after another, do not interfere.  However their calls are interleaved on
a store that does not fail, each pass that is over has returned what it returns alone; one that
is not over has a call left, and none makes more than six.  When all are over, the store holds
what it held, and beside that what each pass adds alone. -/
theorem apart_passes_do_not_interfere (entrant : ι → Entrant) (store : SecretStore)
    (apart : ∀ i j, i ≠ j → (entrant i).Apart (entrant j)) {c : Scene ι}
    {hs : List (Happening ι)} (run : Run (Scene.start entrant store) hs c)
    (answered : ∀ h ∈ hs, h.Answered) :
    (∀ i x, c.Returned i x → x = ((entrant i).alone store).result) ∧
    (∀ i, c.Returned i ((entrant i).alone store).result ∨ c.Calls i) ∧
    (∀ i, (heard i hs).length ≤ 6) ∧
    ((∀ i, ∃ x, c.Returned i x) → ∀ space name fields,
      c.store.get? space name = some fields ↔ store.get? space name = some fields ∨
        store.get? space name = none ∧
          ∃ i, ((entrant i).alone store).state.get? space name = some fields) := by
  obtain ⟨own, hown⟩ := run.exists_shadows answered apart
  refine ⟨?_, ?_, run.length_heard_le answered, ?_⟩
  · intro i x hx
    exact (run.eq_alone_of_returned hown hx).1
  · intro i
    rcases run.returned_or_calls answered i with ⟨x, hx⟩ | hcalls
    · obtain ⟨rfl, -⟩ := run.eq_alone_of_returned hown hx
      exact .inl hx
    · exact .inr hcalls
  · intro hover space name fields
    have hstate (i : ι) : own i = ((entrant i).alone store).state := by
      obtain ⟨x, hx⟩ := hover i
      exact (run.eq_alone_of_returned hown hx).2
    simp only [← hstate]
    constructor
    · exact hown.source space name fields
    · rintro (hheld | ⟨-, i, hheld⟩)
      · exact hown.kept _ _ _ hheld
      · exact hown.grows i _ _ _ hheld

/-! ## Neighbours -/

/-- In a schedule every call is answered. -/
theorem play_answered (turns : List ι) (c : Scene ι) : ∀ h ∈ (c.play turns).1, h.Answered := by
  induction turns generalizing c with
  | nil => exact fun _ h => absurd h List.not_mem_nil
  | cons i turns ih =>
    rw [Scene.play]
    split
    · exact ih c
    · rename_i q next _
      intro h hh
      rcases List.mem_cons.mp hh with rfl | hh
      · exact ⟨i, q, rfl, rfl⟩
      · exact ih _ h hh

/-- An application beside the plain one, with a name that begins as that one's does, whose password
is in a secret of the user's. -/
def Application.neighbour : Application :=
  { Application.plain with
    metadata := { name := some "sample-s3", space := some "pipelines", uid := some "2" }
    spec.database := ⟨.managed (some { passwordSecret := some ⟨"shared", "password"⟩ }), false⟩ }

/-- A pass over the plain application and one over its neighbour. -/
def neighbours (second : Bool) : Entrant :=
  if second then ⟨⟨∅⟩, .neighbour, .repeating 1⟩ else .plain 0

/-- A store with the user's secret in it. -/
def common : SecretStore :=
  ⟨[(("pipelines", "shared"), (∅ : SecretFields).insert "password" [115])]⟩

/-- The passes take turns. -/
def interleaved : List (Happening Bool) × Scene Bool :=
  (Scene.start neighbours common).play [false, true, false, true, false, true, false]

theorem apart_passes_do_not_interfere_neighbours :
    (∀ i j, i ≠ j → (neighbours i).Apart (neighbours j)) ∧
    Run (Scene.start neighbours common) interleaved.1 interleaved.2 ∧
    (∀ h ∈ interleaved.1, h.Answered) ∧
    ∃ x y, interleaved.2.Returned false (.ok x) ∧ interleaved.2.Returned true (.ok y) ∧
      .ok x = ((neighbours false).alone common).result ∧
      .ok y = ((neighbours true).alone common).result ∧
      x.databasePassword.origin = .created ∧ y.databasePassword.origin = .existing ∧
      ∀ space name fields, interleaved.2.store.get? space name = some fields ↔
        common.get? space name = some fields ∨ common.get? space name = none ∧
          ∃ i, ((neighbours i).alone common).state.get? space name = some fields := by
  have apart : ∀ i j, i ≠ j → (neighbours i).Apart (neighbours j) := by
    intro i j hij
    cases i with
    | false =>
      cases j with
      | false => exact absurd rfl hij
      | true => exact ⟨by decide +kernel, by decide +kernel, by decide +kernel⟩
    | true =>
      cases j with
      | false => exact ⟨by decide +kernel, by decide +kernel, by decide +kernel⟩
      | true => exact absurd rfl hij
  have run : Run (Scene.start neighbours common) interleaved.1 interleaved.2 := run_play _ _
  have answered : ∀ h ∈ interleaved.1, h.Answered := play_answered _ _
  have hx : (interleaved.2.resolved? false).map Resolution.databasePassword =
      some ⟨.database "pipelines" "sample" none, ⟨.replicate 12 97, none⟩, .created⟩ := by
    decide +kernel
  have hy : (interleaved.2.resolved? true).map Resolution.databasePassword =
      some ⟨.database "pipelines" "sample-s3" (some ⟨"shared", "password"⟩), ⟨[115], none⟩,
        .existing⟩ := by
    decide +kernel
  obtain ⟨x, hx, hgx⟩ := Option.map_eq_some_iff.mp hx
  obtain ⟨y, hy, hgy⟩ := Option.map_eq_some_iff.mp hy
  replace hx := Scene.returned_of_resolved? hx
  replace hy := Scene.returned_of_resolved? hy
  obtain ⟨hresult, -, -, hstore⟩ :=
    apart_passes_do_not_interfere neighbours common apart run answered
  refine ⟨apart, run, answered, x, y, hx, hy, hresult false _ hx, hresult true _ hy,
    by rw [hgx], by rw [hgy], hstore ?_⟩
  intro i
  cases i with
  | false => exact ⟨_, hx⟩
  | true => exact ⟨_, hy⟩

end PipelinesOperator
