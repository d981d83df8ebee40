import Mathlib.Data.List.Basic
import PipelinesOperator.Proofs.Race.Agreement

/-!
# Where credentials come from

A pass reports of each credential whether it was there, was made or was adopted, and it lists the
secrets that it has made.  Both are told by what became of its own calls, whatever others do to the
store in between: a call that adds a secret is answered so, or else the pass fails and reports
nothing.  The two credentials may be kept in one secret, but the calls that would make it differ,
so each call that makes a secret is for one of them.

## Main definitions

* `Happening.Makes i q h`: the pass `i` makes the call `q`
* `Happening.Adds i q h`: the pass `i` makes the call `q`, which adds the secret that it is about
* `added i hs`: the places of the secrets that a pass adds, in order
* `Established.Traced`: the origin of a credential is what became of the call that would make it

## Main results

* `Run.exists_heard`: a pass that is not cut off hears the answers to all its calls
* `Run.mem_added_iff`: what a pass adds
* `Run.added_eq`: a pass that hears of no failure knows what it has added
* `origins_are_exact`: the origins and the list of a pass that returns
-/

namespace PipelinesOperator

open Dialogue

/-- The place of the secret that was made, as the answer tells. -/
def made? : StoreExchange → Option (String × String)
  | ⟨.get .., _⟩ => none
  | ⟨.create space name _, a⟩ =>
    match a with
    | .ok .created => some (space, name)
    | .ok .alreadyExists => none
    | .error _ => none

/-! ## The secrets of a course -/

namespace CredentialReference

variable {r : CredentialReference} {fresh : Material} {es : List StoreExchange} {c : Credential}
  {o : Origin}

/-- On the way to a credential its secret is made, or none is. -/
theorem Course.filterMap_made? (h : r.Course fresh es (.ok (c, o))) :
    es.filterMap made? = if o = .created then [(r.space, r.name)] else [] := by
  rcases course_ok_iff.mp h with
    ⟨fields, rfl, -, rfl⟩ | ⟨-, rfl, -, rfl⟩ | ⟨-, fields, rfl, -, rfl⟩
  · rfl
  · rfl
  · rfl

/-- All that is made on the way to an end is what the reference deposits. -/
theorem Course.eq_deposit {x : Except ResolutionError (Credential × Origin)}
    (h : r.Course fresh es x) {e : StoreExchange} (he : e ∈ es) {space name : String}
    {fields : SecretFields} (hq : e.1 = .create space name fields) :
    .create space name fields = r.deposit fresh := by
  rcases h.call_eq he with heq | ⟨-, heq⟩
  · cases hq.symm.trans heq
  · exact hq.symm.trans heq

/-- A secret that is made is named as those of the operator. -/
theorem Course.created_sublist {own : String} (h : r.Course fresh es (.ok (c, o)))
    (hown : r.ownership = .operator → r.name = own) :
    (if o = .created then [r.name] else []).Sublist [own] := by
  split
  · rename_i ho
    rw [hown (ho ▸ h).operator_of_created]
  · exact List.nil_sublist [own]

end CredentialReference

variable {ι : Type} [DecidableEq ι]

/-! ## What a pass does in a happening -/

/-- The call that a pass makes. -/
def Act.call? : Act ι → Option StoreCall
  | .call _ e => some e.1
  | .cut _ q => some q
  | .outside => none

namespace Happening

/-- A pass makes a call, whether it hears the answer or not. -/
def Makes (i : ι) (q : StoreCall) (h : Happening ι) : Prop :=
  h.act.actor? = some i ∧ h.act.call? = some q

/-- A pass makes a call that adds the secret that it is about. -/
def Adds (i : ι) (q : StoreCall) (h : Happening ι) : Prop :=
  h.Makes i q ∧ h.before.get? q.place.1 q.place.2 = none ∧
    ∃ fields, h.after.get? q.place.1 q.place.2 = some fields

/-- The place of the secret that a pass adds, if it adds one. -/
def added? (i : ι) (h : Happening ι) : Option (String × String) :=
  if h.act.actor? = some i then
    (h.act.call?.map StoreCall.place).filter fun place =>
      (h.before.get? place.1 place.2).isNone && (h.after.get? place.1 place.2).isSome
  else none

theorem added?_eq_some {i : ι} {h : Happening ι} {place : String × String} :
    h.added? i = some place ↔ ∃ q, h.Adds i q ∧ q.place = place := by
  rw [added?]
  split
  · rename_i hi
    simp only [Option.filter_eq_some_iff, Option.map_eq_some_iff, Bool.and_eq_true,
      Option.isNone_iff_eq_none, Option.isSome_iff_exists]
    constructor
    · rintro ⟨⟨q, hq, rfl⟩, hadds⟩
      exact ⟨q, ⟨⟨hi, hq⟩, hadds⟩, rfl⟩
    · rintro ⟨q, ⟨⟨-, hq⟩, hadds⟩, rfl⟩
      exact ⟨⟨q, hq, rfl⟩, hadds⟩
  · rename_i hi
    exact iff_of_false nofun fun ⟨q, hadds, _⟩ => hi hadds.1.1

/-- What a call has added is what its answer tells, if the store has not failed.  Only a creation
where nothing stood adds a secret. -/
theorem added?_eq_made? {i : ι} {h : Happening ι} {q : StoreCall} {a : q.Answer}
    (hact : h.act = .call i ⟨q, a⟩) (served : SecretStore.Served h.before q a h.after)
    (hok : ∀ fault, a ≠ q.failure fault) : h.added? i = made? ⟨q, a⟩ := by
  obtain ⟨ha, hafter⟩ := served.eq_answer hok
  rw [added?, hact, Act.actor?, if_pos rfl, hafter, ha]
  cases q with
  | get space name =>
    cases hget : h.before.get? space name with
    | none => simp [Act.call?, StoreCall.place, SecretStore.answer, hget, made?]
    | some fields => simp [Act.call?, StoreCall.place, SecretStore.answer, hget, made?]
  | create space name fields =>
    cases hget : h.before.get? space name with
    | none =>
      rw [SecretStore.answer_create_of_none hget]
      simp [Act.call?, StoreCall.place, hget, SecretStore.get?_put, made?]
    | some old =>
      rw [SecretStore.answer_create_of_some hget]
      simp [Act.call?, StoreCall.place, made?]

end Happening

/-- The places of the secrets that a pass adds, in order. -/
def added (i : ι) (hs : List (Happening ι)) : List (String × String) :=
  hs.filterMap (Happening.added? i)

/-- Where an answer is heard, a run can be parted into what was heard before and behind. -/
theorem exists_of_heard_eq {i : ι} {hs : List (Happening ι)} {es es' : List StoreExchange}
    {e : StoreExchange} (h : heard i hs = es ++ e :: es') :
    ∃ hs₁ h hs₂, hs = hs₁ ++ h :: hs₂ ∧ heard i hs₁ = es ∧ h.act = .call i e := by
  obtain ⟨before, rest, rfl, hbefore, hrest⟩ := List.filterMap_eq_append_iff.mp h
  obtain ⟨silent, h', hs₂, rfl, hsilent, hact, -⟩ := List.filterMap_eq_cons_iff.mp hrest
  refine ⟨before ++ silent, h', hs₂, (List.append_assoc ..).symm, ?_, Act.heard?_eq_some.mp hact⟩
  rw [heard_append, show heard i silent = [] from List.filterMap_eq_nil_iff.mpr hsilent,
    List.append_nil]
  exact hbefore

/-- Of two answers that are heard one after the other, the second is heard behind the first. -/
theorem exists_behind_of_heard_eq {i : ι} {hs : List (Happening ι)} {es es' : List StoreExchange}
    {e₁ e₂ : StoreExchange} (h : heard i hs = es ++ e₁ :: e₂ :: es') :
    ∃ hs₁ h hs₂, hs = hs₁ ++ h :: hs₂ ∧ (∃ h' ∈ hs₁, h'.act = .call i e₁) ∧
      h.act = .call i e₂ := by
  have hparted : heard i hs = (es ++ [e₁]) ++ e₂ :: es' := by rw [h, List.append_assoc]; rfl
  obtain ⟨hs₁, h, hs₂, hl, hbefore, hact⟩ := exists_of_heard_eq hparted
  have hfirst : e₁ ∈ heard i hs₁ := by rw [hbefore]; exact List.mem_concat_self
  exact ⟨hs₁, h, hs₂, hl, mem_heard.mp hfirst, hact⟩

/-! ## What a pass adds in a run -/

/-- Of a pass that goes on the step has cut nothing off. -/
theorem Scene.Step.ne_cut {c c' : Scene ι} {act : Act ι} {i : ι} {d' : Pass}
    (h : Scene.Step c act c') (hd' : c'.rest i = some d') (q : StoreCall) : act ≠ .cut i q := by
  rintro rfl
  cases h with
  | cut hd path served => simp at hd'

namespace Run

variable {c c' : Scene ι} {hs : List (Happening ι)} {i : ι} {space name : String}

/-- A pass that goes on was not cut off. -/
theorem ne_cut (run : Run c hs c') {d' : Pass} (hd' : c'.rest i = some d') :
    ∀ h ∈ hs, ∀ q, h.act ≠ .cut i q := by
  induction run generalizing d' with
  | start => exact fun _ hh => absurd hh List.not_mem_nil
  | step run hstep ih =>
    obtain ⟨d, hd, -⟩ := hstep.path hd'
    intro h hh
    rcases List.mem_append.mp hh with hh | hh
    · exact ih hd h hh
    · obtain rfl := List.mem_singleton.mp hh
      exact hstep.ne_cut hd'

/-- A pass that goes on has heard the answers to all its calls. -/
theorem exists_heard (run : Run c hs c') {d' : Pass} (hd' : c'.rest i = some d')
    {h : Happening ι} (hh : h ∈ hs) (hi : h.act.actor? = some i) :
    ∃ e ∈ heard i hs, h.act = .call i e := by
  cases hact : h.act with
  | call j e =>
    rw [hact] at hi
    obtain rfl := Option.some.inj hi
    exact ⟨e, mem_heard.mpr ⟨h, hh, hact⟩, rfl⟩
  | cut j q =>
    rw [hact] at hi
    obtain rfl := Option.some.inj hi
    exact absurd hact (run.ne_cut hd' h hh q)
  | outside =>
    rw [hact] at hi
    cases hi

/-- A call that a pass makes which goes on is one that it has heard the answer to. -/
theorem makes_iff (run : Run c hs c') {d' : Pass} (hd' : c'.rest i = some d') {q : StoreCall} :
    (∃ h ∈ hs, h.Makes i q) ↔ ∃ e ∈ heard i hs, e.1 = q := by
  constructor
  · rintro ⟨h, hh, hi, hq⟩
    obtain ⟨e, he, hact⟩ := run.exists_heard hd' hh hi
    rw [hact] at hq
    exact ⟨e, he, Option.some.inj hq⟩
  · rintro ⟨e, he, rfl⟩
    obtain ⟨h, hh, hact⟩ := mem_heard.mp he
    exact ⟨h, hh, by rw [hact]; rfl, by rw [hact]; rfl⟩

/-- A pass that goes on has made a secret by a call exactly when it has heard so, unless the store
has told of a failure. -/
theorem adds_iff (run : Run c hs c') {d' : Pass} (hd' : c'.rest i = some d') {fields : SecretFields}
    (hok : ∀ e ∈ heard i hs, e.1 = .create space name fields → ∀ fault, e.2 ≠ e.1.failure fault) :
    (∃ h ∈ hs, h.Adds i (.create space name fields)) ↔
      ⟨.create space name fields, .ok .created⟩ ∈ heard i hs := by
  constructor
  · rintro ⟨h, hh, ⟨hi, hq⟩, hnew, -⟩
    obtain ⟨⟨q, a⟩, he, hact⟩ := run.exists_heard hd' hh hi
    rw [hact] at hq
    obtain rfl : q = .create space name fields := Option.some.inj hq
    obtain ⟨ha, -⟩ := (run.served hh hact).eq_answer (hok _ he rfl)
    have hnew : h.before.get? space name = none := hnew
    rwa [ha, SecretStore.answer_create_of_none hnew] at he
  · intro he
    obtain ⟨h, hh, hact⟩ := mem_heard.mp he
    obtain ⟨hnew, hmade⟩ := (run.served hh hact).of_created
    exact ⟨h, hh, ⟨by rw [hact]; rfl, by rw [hact]; rfl⟩, hnew, _, hmade⟩

/-- The places of what a pass adds are those where there is something behind one of its calls that
was not there before. -/
theorem mem_added_iff (run : Run c hs c') : (space, name) ∈ added i hs ↔
    ∃ h ∈ hs, h.act.actor? = some i ∧ h.before.get? space name = none ∧
      ∃ fields, h.after.get? space name = some fields := by
  simp only [added, List.mem_filterMap, Happening.added?_eq_some]
  constructor
  · rintro ⟨h, hh, q, ⟨⟨hi, -⟩, hnew, hmade⟩, hplace⟩
    rw [hplace] at hnew hmade
    exact ⟨h, hh, hi, hnew, hmade⟩
  · rintro ⟨h, hh, hi, hnew, fields, hmade⟩
    obtain ⟨c₁, c₂, hstep, hb, ha⟩ := run.exists_step hh
    obtain ⟨d, d', q, a, -, -, hserved, hcall⟩ := hstep.exists_call hi
    rw [← hb, ← ha] at hserved
    obtain rfl := hserved.create_of_added hnew hmade
    have hq : h.act.call? = some (.create space name fields) := by
      rcases hcall with hact | hact
      · rw [hact]; rfl
      · rw [hact]; rfl
    exact ⟨h, hh, _, ⟨⟨hi, hq⟩, hnew, fields, hmade⟩, rfl⟩

/-- A pass that goes on and has heard of no failure knows what it has added.  What others do is
neither heard by the pass nor counted as added by it. -/
theorem added_eq (run : Run c hs c') {d' : Pass} (hd' : c'.rest i = some d')
    (hok : ∀ e ∈ heard i hs, ∀ fault, e.2 ≠ e.1.failure fault) :
    added i hs = (heard i hs).filterMap made? := by
  rw [added, heard, List.filterMap_filterMap]
  refine List.filterMap_congr fun h hh => ?_
  by_cases hi : h.act.actor? = some i
  · obtain ⟨e, he, hact⟩ := run.exists_heard hd' hh hi
    rw [Happening.added?_eq_made? hact (run.served hh hact) (hok e he), hact, Act.heard?,
      if_pos rfl]
    rfl
  · have hsilent : h.act.heard? i = none := by
      refine Option.eq_none_iff_forall_not_mem.mpr fun e he => hi ?_
      rw [Act.heard?_eq_some.mp he]
      rfl
    rw [Happening.added?, if_neg hi, hsilent]
    rfl

/-- What is there in the end and was not in the beginning was added by some happening. -/
theorem exists_addition (run : Run c hs c') (hnew : c.store.get? space name = none)
    {fields : SecretFields} (hmade : c'.store.get? space name = some fields) :
    ∃ h ∈ hs, h.before.get? space name = none ∧
      ∃ fields, h.after.get? space name = some fields := by
  induction run generalizing fields with
  | start => exact absurd (hnew.symm.trans hmade) (Option.some_ne_none _).symm
  | @step hs act c₁ c₂ run hstep ih =>
    cases hlast : c₁.store.get? space name with
    | none =>
      exact ⟨_, List.mem_append_right hs (List.mem_singleton_self _), hlast, fields, hmade⟩
    | some old =>
      obtain ⟨h, hh, hadded⟩ := ih hlast
      exact ⟨h, List.mem_append_left _ hh, hadded⟩

/-- A pass that has the store to itself adds what is there in the end and was not in the
beginning. -/
theorem mem_added_iff_of_alone (run : Run c hs c') (alone : ∀ h ∈ hs, h.act.actor? = some i) :
    (space, name) ∈ added i hs ↔ c.store.get? space name = none ∧
      ∃ fields, c'.store.get? space name = some fields := by
  have quiet : ∀ h ∈ hs, h.act ≠ .outside := by
    intro h hh hact
    have hi := alone h hh
    rw [hact] at hi
    cases hi
  rw [run.mem_added_iff]
  constructor
  · rintro ⟨h, hh, -, hnew, fields, hmade⟩
    refine ⟨?_, fields, run.after_grows quiet hh _ _ _ hmade⟩
    obtain ⟨hs₁, hs₂, rfl⟩ := List.append_of_mem hh
    obtain ⟨c₁, c₂, run₁, -, hb, -, -⟩ := run.exists_split rfl
    have hgrows := run₁.grows fun h' hh' => quiet h' (List.mem_append_left _ hh')
    refine Option.eq_none_iff_forall_ne_some.mpr fun old hold => ?_
    rw [hb, hgrows _ _ _ hold] at hnew
    cases hnew
  · rintro ⟨hnew, fields, hmade⟩
    obtain ⟨h, hh, hnew, hmade⟩ := run.exists_addition hnew hmade
    exact ⟨h, hh, alone h hh, hnew, hmade⟩

end Run

/-! ## The origins of a resolution -/

/-- The origin of a credential is what became of the call of its pass that would make it: that call
added the secret, or was told that there was one, or was not made at all.  What is adopted was read
behind that call. -/
structure Established.Traced (g : Established) (i : ι) (fresh : Material)
    (hs : List (Happening ι)) : Prop where
  created : g.origin = .created ↔ ∃ h ∈ hs, h.Adds i (g.reference.deposit fresh)
  adopted : g.origin = .adopted ↔
    ∃ h ∈ hs, h.act = .call i ⟨g.reference.deposit fresh, .ok .alreadyExists⟩
  existing : g.origin = .existing ↔ ∀ h ∈ hs, ¬h.Makes i (g.reference.deposit fresh)
  reread : g.origin = .adopted → ∃ hs₁ h hs₂ fields, hs = hs₁ ++ h :: hs₂ ∧
    (∃ h' ∈ hs₁, h'.act = .call i ⟨g.reference.deposit fresh, .ok .alreadyExists⟩) ∧
    h.act = .call i ⟨g.reference.fetch, .ok (some fields)⟩ ∧
    g.reference.extract fields = .ok g.credential

/-- A course that a pass has heard among others, none of which would make the same secret, traces
the credential at its end.  Deposits are heard of in the course of this credential alone, so what
the whole run tells of them is what the course tells. -/
theorem Run.traced {c c' : Scene ι} {hs : List (Happening ι)} {i : ι} {fresh : Material}
    {g : Established} {es₁ es es₂ : List StoreExchange} (run : Run c hs c') {d' : Pass}
    (hd' : c'.rest i = some d') (hheard : heard i hs = es₁ ++ es ++ es₂)
    (hcourse : g.reference.Course fresh es (.ok (g.credential, g.origin)))
    (hothers : ∀ e ∈ es₁ ++ es₂, e.1 ≠ g.reference.deposit fresh) : g.Traced i fresh hs := by
  have hmem {e : StoreExchange} (he : e.1 = g.reference.deposit fresh) :
      e ∈ heard i hs ↔ e ∈ es := by
    have hes₁ : e ∉ es₁ := fun h => hothers e (List.mem_append_left es₂ h) he
    have hes₂ : e ∉ es₂ := fun h => hothers e (List.mem_append_right es₁ h) he
    simp [hheard, hes₁, hes₂]
  refine ⟨?created, ?adopted, ?existing, ?reread⟩
  case created =>
    rw [hcourse.created_iff, ← hmem rfl]
    exact (run.adds_iff hd' fun e he hq => hcourse.answered e ((hmem hq).mp he)).symm
  case adopted =>
    rw [hcourse.adopted_iff, ← hmem rfl, mem_heard]
  case existing =>
    rw [hcourse.existing_iff]
    constructor
    · intro h h' hh' hmakes
      obtain ⟨e, he, hq⟩ := (run.makes_iff hd').mp ⟨h', hh', hmakes⟩
      exact h e ((hmem hq).mp he) hq
    · intro h e he hq
      obtain ⟨h', hh', hmakes⟩ := (run.makes_iff hd').mpr ⟨e, (hmem hq).mpr he, hq⟩
      exact h h' hh' hmakes
  case reread =>
    intro ho
    obtain ⟨fields, rfl, hextract⟩ := (ho ▸ hcourse).exists_reread
    have hparted : heard i hs = (es₁ ++ [⟨g.reference.fetch, .ok none⟩]) ++
        ⟨g.reference.deposit fresh, .ok .alreadyExists⟩ ::
          ⟨g.reference.fetch, .ok (some fields)⟩ :: es₂ := by
      rw [hheard]
      simp
    obtain ⟨hs₁, h, hs₂, hl, htold, hact⟩ := exists_behind_of_heard_eq hparted
    exact ⟨hs₁, h, hs₂, fields, hl, htold, hact, hextract⟩

section Resolution

variable {entrant : ι → Entrant} {store : SecretStore} {c : Scene ι} {hs : List (Happening ι)}
  {i : ι} {x : Resolution}

/-- A pass that returns has heard a course over each credential, the password first. -/
theorem Run.exists_courses (run : Run (Scene.start entrant store) hs c)
    (hx : c.Returned i (.ok x)) : ∃ p es₁ es₂ password keys,
      (entrant i).application.plan (entrant i).registry = .ok p ∧ heard i hs = es₁ ++ es₂ ∧
      p.database.credentials.Course (entrant i).fresh es₁ (.ok password) ∧
      p.objectStorage.credentials.Course (entrant i).fresh es₂ (.ok keys) ∧
      x = p.complete password keys :=
  Application.resolve_gives_ok_iff.mp (run.gives_of_returned hx)

/-- The origins of a pass that returns are those of its calls. -/
theorem Run.traced_of_returned (run : Run (Scene.start entrant store) hs c)
    (hx : c.Returned i (.ok x)) : ∀ g ∈ x.established, g.Traced i (entrant i).fresh hs := by
  obtain ⟨d', hd', -⟩ := id hx
  obtain ⟨p, es₁, es₂, password, keys, hp, hheard, h₁, h₂, rfl⟩ := run.exists_courses hx
  obtain ⟨hpassword, hkeys⟩ := Application.plan_kinds hp
  have hne : p.database.credentials.deposit (entrant i).fresh ≠
      p.objectStorage.credentials.deposit (entrant i).fresh :=
    CredentialReference.deposit_ne hpassword hkeys
  intro g hg
  rcases Resolution.mem_established.mp hg with rfl | rfl
  · have hparted : heard i hs = [] ++ es₁ ++ es₂ := hheard
    exact run.traced hd' hparted h₁ fun e he hq => hne (h₂.eq_deposit he hq)
  · have hparted : heard i hs = es₁ ++ es₂ ++ [] := hheard.trans (List.append_nil _).symm
    refine run.traced hd' hparted h₂ fun e he hq => hne ?_
    rw [List.append_nil] at he
    exact (h₁.eq_deposit he hq).symm

/-- The secrets that a resolution lists are told by its origins. -/
theorem Plan.createdSecrets_complete (p : Plan) (password keys : Credential × Origin) :
    (p.complete password keys).parameters.createdSecrets =
      (if password.2 = .created then [p.database.credentials.name] else []) ++
        if keys.2 = .created then [p.objectStorage.credentials.name] else [] := rfl

/-- The list of a pass that returns is that of the secrets it has added.  A pass that returned heard
of no failure, since a failure would have ended it. -/
theorem Run.added_eq_createdSecrets (run : Run (Scene.start entrant store) hs c)
    (hx : c.Returned i (.ok x)) : added i hs =
      x.parameters.createdSecrets.map fun name => (x.parameters.space, name) := by
  obtain ⟨d', hd', -⟩ := id hx
  obtain ⟨p, es₁, es₂, password, keys, hp, hheard, h₁, h₂, rfl⟩ := run.exists_courses hx
  obtain ⟨hpassword, hkeys⟩ := Application.plan_spaces hp
  have hok : ∀ e ∈ heard i hs, ∀ fault, e.2 ≠ e.1.failure fault := by
    rw [hheard]
    intro e he
    rcases List.mem_append.mp he with he | he
    · exact h₁.answered e he
    · exact h₂.answered e he
  calc added i hs
    _ = (if password.2 = .created then [(p.space, p.database.credentials.name)] else []) ++
          if keys.2 = .created then [(p.space, p.objectStorage.credentials.name)] else [] := by
      rw [run.added_eq hd' hok, hheard, List.filterMap_append, h₁.filterMap_made?,
        h₂.filterMap_made?, hpassword, hkeys]
    _ = (p.complete password keys).parameters.createdSecrets.map fun name => (p.space, name) := by
      rw [Plan.createdSecrets_complete, List.map_append]
      split <;> split <;> rfl

/-- The list of a pass that returns has at most the two secrets that the operator names after the
application, in their order. -/
theorem Run.createdSecrets_sublist (run : Run (Scene.start entrant store) hs c)
    (hx : c.Returned i (.ok x)) : x.parameters.createdSecrets.Sublist
      ["ds-pipeline-db-" ++ x.parameters.name, "ds-pipeline-s3-" ++ x.parameters.name] := by
  obtain ⟨p, es₁, es₂, ⟨_, o⟩, ⟨_, o'⟩, hp, -, h₁, h₂, rfl⟩ := run.exists_courses hx
  obtain ⟨custom, hpassword⟩ := Application.plan_database hp
  obtain ⟨custom', hkeys⟩ := Application.plan_storage hp
  rw [Plan.createdSecrets_complete]
  have hdatabase := h₁.created_sublist fun ho =>
    show p.database.credentials.name = Names.databaseSecret p.name by
      rw [hpassword] at ho ⊢
      rw [CredentialReference.database_of_operator ho, CredentialReference.database]
  have hstorage := h₂.created_sublist fun ho =>
    show p.objectStorage.credentials.name = Names.storageSecret p.name by
      rw [hkeys] at ho ⊢
      rw [CredentialReference.storage_of_operator ho, CredentialReference.storage]
  exact hdatabase.append hstorage

/-- Every secret that a pass tries to make is for one of the credentials that it returns. -/
theorem Run.exists_deposit_of_makes (run : Run (Scene.start entrant store) hs c)
    (hx : c.Returned i (.ok x)) {h : Happening ι} (hh : h ∈ hs) {space name : String}
    {fields : SecretFields} (hmakes : h.Makes i (.create space name fields)) :
    ∃ g ∈ x.established, .create space name fields = g.reference.deposit (entrant i).fresh := by
  obtain ⟨d', hd', -⟩ := id hx
  obtain ⟨e, he, hq⟩ := (run.makes_iff hd').mp ⟨h, hh, hmakes⟩
  obtain ⟨p, es₁, es₂, password, keys, hp, hheard, h₁, h₂, rfl⟩ := run.exists_courses hx
  rw [hheard] at he
  rcases List.mem_append.mp he with he | he
  · exact ⟨_, List.mem_cons_self, h₁.eq_deposit he hq⟩
  · exact ⟨_, List.mem_cons_of_mem _ List.mem_cons_self, h₂.eq_deposit he hq⟩

end Resolution

/-- **The origins that a pass reports are exact.**  In any company, a pass that returns reports of
each credential what became of its own call that would make it; every secret that it tried to make
was for one of the two credentials, and for one only.  The secrets that it lists are those that it
has added, in the order in which it has added them: that of the database before that of object
storage, each once.  If it has had the store to itself, they are those that are there in the end
and were not in the beginning. -/
theorem origins_are_exact (entrant : ι → Entrant) (store : SecretStore) {c : Scene ι}
    {hs : List (Happening ι)} (run : Run (Scene.start entrant store) hs c) {i : ι} {x : Resolution}
    (hx : c.Returned i (.ok x)) :
    (∀ g ∈ x.established, g.Traced i (entrant i).fresh hs) ∧
    (∀ h ∈ hs, ∀ space name fields, h.Makes i (.create space name fields) →
      ∃ g ∈ x.established, .create space name fields = g.reference.deposit (entrant i).fresh) ∧
    x.databasePassword.reference.deposit (entrant i).fresh ≠
      x.storageKeys.reference.deposit (entrant i).fresh ∧
    added i hs = (x.parameters.createdSecrets.map fun name => (x.parameters.space, name)) ∧
    x.parameters.createdSecrets.Sublist
      ["ds-pipeline-db-" ++ x.parameters.name, "ds-pipeline-s3-" ++ x.parameters.name] ∧
    x.parameters.createdSecrets.Nodup ∧
    ((∀ h ∈ hs, h.act.actor? = some i) → ∀ space name,
      space = x.parameters.space ∧ name ∈ x.parameters.createdSecrets ↔
        store.get? space name = none ∧ ∃ fields, c.store.get? space name = some fields) := by
  have hadded := run.added_eq_createdSecrets hx
  have hsublist := run.createdSecrets_sublist hx
  refine ⟨run.traced_of_returned hx,
    fun h hh space name fields hmakes => run.exists_deposit_of_makes hx hh hmakes, ?differ, hadded,
    hsublist, ?once, ?alone⟩
  case differ =>
    obtain ⟨p, -, -, password, keys, hp, -, -, -, rfl⟩ := run.exists_courses hx
    obtain ⟨hpassword, hkeys⟩ := Application.plan_kinds hp
    exact CredentialReference.deposit_ne hpassword hkeys
  case once =>
    refine hsublist.nodup (List.nodup_cons.mpr ⟨fun hmem => ?_, List.pairwise_singleton _ _⟩)
    exact Names.databaseSecret_ne_storageSecret _ _ (List.mem_singleton.mp hmem)
  case alone =>
    intro alone space name
    rw [← show (Scene.start entrant store).store.get? space name = store.get? space name from rfl,
      ← run.mem_added_iff_of_alone alone, hadded, List.mem_map]
    constructor
    · rintro ⟨rfl, hname⟩
      exact ⟨name, hname, rfl⟩
    · rintro ⟨name', hname', heq⟩
      obtain ⟨rfl, rfl⟩ := Prod.mk.inj heq
      exact ⟨rfl, hname'⟩

/-- Both passes find nothing; the first makes both secrets, and the second, which has tried to make
them as well, returns the password that it has read then and not its own. -/
theorem origins_are_exact_photoFinish :
    ∃ x y, photoFinish.2.Returned false (.ok x) ∧ photoFinish.2.Returned true (.ok y) ∧
      (∃ h ∈ photoFinish.1,
        h.Adds false (x.databasePassword.reference.deposit (duo false).fresh)) ∧
      added false photoFinish.1 =
        [("pipelines", "ds-pipeline-db-sample"), ("pipelines", "ds-pipeline-s3-sample")] ∧
      added true photoFinish.1 = [] ∧
      y.password ≠ (duo true).fresh.credential .databasePassword ∧
      ∃ hs₁ h hs₂ fields, photoFinish.1 = hs₁ ++ h :: hs₂ ∧
        h.act = .call true ⟨y.databasePassword.reference.fetch, .ok (some fields)⟩ ∧
        y.databasePassword.reference.extract fields = .ok y.password := by
  have run : Run (Scene.start duo ⟨[]⟩) photoFinish.1 photoFinish.2 := run_play _ _
  have hx : (photoFinish.2.resolved? false).map (fun x =>
      (x.databasePassword.origin, x.parameters.space, x.parameters.createdSecrets)) =
        some (.created, "pipelines", ["ds-pipeline-db-sample", "ds-pipeline-s3-sample"]) := by
    decide +kernel
  have hy : (photoFinish.2.resolved? true).map (fun y =>
      (y.databasePassword.origin, y.password, y.parameters.createdSecrets)) =
        some (.adopted, ⟨.replicate 12 97, none⟩, []) := by
    decide +kernel
  obtain ⟨x, hx, heq⟩ := Option.map_eq_some_iff.mp hx
  obtain ⟨y, hy, heq'⟩ := Option.map_eq_some_iff.mp hy
  replace hx := Scene.returned_of_resolved? hx
  replace hy := Scene.returned_of_resolved? hy
  simp only [Prod.mk.injEq] at heq heq'
  obtain ⟨hmade, hspace, hlist⟩ := heq
  obtain ⟨hadopted, hpassword, hnone⟩ := heq'
  obtain ⟨htraced, -, -, hadded, -⟩ := origins_are_exact duo ⟨[]⟩ run hx
  obtain ⟨htraced', -, -, hadded', -⟩ := origins_are_exact duo ⟨[]⟩ run hy
  obtain ⟨hs₁, h, hs₂, fields, hl, -, hact, hextract⟩ :=
    (htraced' _ List.mem_cons_self).reread hadopted
  refine ⟨x, y, hx, hy, (htraced _ List.mem_cons_self).created.mp hmade, ?_, ?_, ?_,
    hs₁, h, hs₂, fields, hl, hact, hextract⟩
  · rw [hadded, hlist, hspace]
    rfl
  · rw [hadded', hnone]
    rfl
  · rw [hpassword]
    decide

end PipelinesOperator
