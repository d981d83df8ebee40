import Mathlib.Logic.Function.Basic
import PipelinesOperator.Proofs.Credential.Store
import PipelinesOperator.Proofs.Resolution.Course

/-!
# Passes that race

Many passes share one store, and each of their calls is one step of the whole.  Between two steps
of a pass anything may happen: the other passes make their calls, the store fails before or after
it has done what it was asked, a pass is cut off and never hears the answer to its last call, and
outsiders may leave the store in any state they like.  A run records what happened and the store
before and behind each happening.

## Main definitions

* `Scene`: a store and what remains of each pass
* `Scene.Step`: one happening
* `Run c hs c'`: the happenings `hs` lead from the scene `c` to the scene `c'`
* `heard i hs`: the calls of one pass with the answers that it heard
* `Scene.Returned c i x`: the pass `i` is over and has returned `x`

## Main results

* `Run.path`: what a pass heard is a path of its dialogue
* `Run.asks_of_split`: every call that a pass makes is one that its dialogue asks next
* `Step.grows`, `Run.grows`: no step but an outsider's changes or removes a secret
* `Run.made_once`: among passes alone a secret is made at most once
-/

namespace PipelinesOperator

open Dialogue

/-- What a pass draws on. -/
structure Entrant where
  registry : Registry
  application : Application
  fresh : Material

/-- A resolution under way. -/
abbrev Pass := StoreDialogue (Except ResolutionError Resolution)

/-- The pass of an entrant. -/
def Entrant.pass (e : Entrant) : Pass := e.application.resolve e.registry e.fresh

/-- A store and what remains of each pass; nothing remains of one that was cut off. -/
structure Scene (ι : Type) where
  store : SecretStore
  rest : ι → Option Pass

/-- What can happen to a store. -/
inductive Act (ι : Type) where
  /-- A pass makes a call and hears the answer. -/
  | call (i : ι) (e : StoreExchange)
  /-- A pass is cut off while it makes a call. -/
  | cut (i : ι) (call : StoreCall)
  /-- Somebody else writes. -/
  | outside

/-- Something that happened, with the store before it and behind it. -/
structure Happening (ι : Type) where
  act : Act ι
  before : SecretStore
  after : SecretStore

variable {ι : Type} [DecidableEq ι]

namespace Act

/-- The pass that acts, if it is one. -/
def actor? : Act ι → Option ι
  | .call i _ => some i
  | .cut i _ => some i
  | .outside => none

/-- What a pass hears of an act. -/
def heard? (i : ι) : Act ι → Option StoreExchange
  | .call j e => if j = i then some e else none
  | .cut .. => none
  | .outside => none

theorem heard?_eq_some {i : ι} {e : StoreExchange} {a : Act ι} :
    a.heard? i = some e ↔ a = .call i e := by
  cases a with
  | call j e' =>
    rw [heard?]
    by_cases hj : j = i
    · simp [hj]
    · simp [hj]
  | cut j q => simp [heard?]
  | outside => simp [heard?]

end Act

/-- The calls of a pass with the answers that it heard. -/
def heard (i : ι) (hs : List (Happening ι)) : List StoreExchange :=
  hs.filterMap fun h => h.act.heard? i

theorem heard_append (i : ι) (hs hs' : List (Happening ι)) :
    heard i (hs ++ hs') = heard i hs ++ heard i hs' := List.filterMap_append

theorem heard_singleton (i : ι) (h : Happening ι) : heard i [h] = (h.act.heard? i).toList := by
  rw [heard, List.filterMap_cons]
  cases h.act.heard? i with
  | none => rfl
  | some e => rfl

theorem mem_heard {i : ι} {e : StoreExchange} {hs : List (Happening ι)} :
    e ∈ heard i hs ↔ ∃ h ∈ hs, h.act = .call i e := by
  simp only [heard, List.mem_filterMap, Act.heard?_eq_some]

namespace Scene

/-- The beginning: no pass has made a call. -/
def start (entrant : ι → Entrant) (store : SecretStore) : Scene ι :=
  ⟨store, fun i => some (entrant i).pass⟩

/-- A pass is over and has returned. -/
def Returned (c : Scene ι) (i : ι) (x : Except ResolutionError Resolution) : Prop :=
  ∃ d, c.rest i = some d ∧ d.Gives [] x

/-- One happening. -/
inductive Step : Scene ι → Act ι → Scene ι → Prop where
  | call {s s' : SecretStore} {rest : ι → Option Pass} {i : ι} {d d' : Pass} {q : StoreCall}
      {a : q.Answer} (hd : rest i = some d) (path : Dialogue.Path d [⟨q, a⟩] d')
      (served : SecretStore.Served s q a s') :
      Step ⟨s, rest⟩ (.call i ⟨q, a⟩) ⟨s', Function.update rest i (some d')⟩
  | cut {s s' : SecretStore} {rest : ι → Option Pass} {i : ι} {d d' : Pass} {q : StoreCall}
      {a : q.Answer} (hd : rest i = some d) (path : Dialogue.Path d [⟨q, a⟩] d')
      (served : SecretStore.Served s q a s') :
      Step ⟨s, rest⟩ (.cut i q) ⟨s', Function.update rest i none⟩
  | outside (s s' : SecretStore) (rest : ι → Option Pass) : Step ⟨s, rest⟩ .outside ⟨s', rest⟩

/-- A step of a pass is a call of the store, which its dialogue asks next. -/
theorem Step.exists_call {c c' : Scene ι} {act : Act ι} {i : ι} (h : Step c act c')
    (hi : act.actor? = some i) : ∃ d d' q a, c.rest i = some d ∧ Dialogue.Path d [⟨q, a⟩] d' ∧
      SecretStore.Served c.store q a c'.store ∧
      (act = .call i ⟨q, a⟩ ∨ act = .cut i q) := by
  cases h with
  | call hd path served =>
    obtain rfl := Option.some.inj hi
    exact ⟨_, _, _, _, hd, path, served, .inl rfl⟩
  | cut hd path served =>
    obtain rfl := Option.some.inj hi
    exact ⟨_, _, _, _, hd, path, served, .inr rfl⟩
  | outside s s' rest => cases hi

theorem Step.served {c c' : Scene ι} {i : ι} {q : StoreCall} {a : q.Answer}
    (h : Step c (.call i ⟨q, a⟩) c') : SecretStore.Served c.store q a c'.store := by
  cases h with
  | call hd path served => exact served

/-- No step but an outsider's changes or removes a secret. -/
theorem Step.grows {c c' : Scene ι} {act : Act ι} (h : Step c act c') (ha : act ≠ .outside) :
    c.store.Grows c'.store := by
  cases h with
  | call hd path served => exact served.grows
  | cut hd path served => exact served.grows
  | outside s s' rest => exact absurd rfl ha

/-- What a step leaves of a pass that goes on.  Only the pass that acts hears anything. -/
theorem Step.path {c c' : Scene ι} {act : Act ι} {i : ι} {d' : Pass} (h : Step c act c')
    (hd' : c'.rest i = some d') :
    ∃ d, c.rest i = some d ∧ Dialogue.Path d (act.heard? i).toList d' := by
  cases h with
  | @call s s' rest j d d'' q a hd path served =>
    by_cases hi : i = j
    · subst hi
      obtain rfl : d'' = d' := by simpa using hd'
      exact ⟨d, hd, by simpa [Act.heard?] using path⟩
    · have hrest : rest i = some d' := by simpa [hi] using hd'
      exact ⟨d', hrest, by simpa [Act.heard?, Ne.symm hi] using Dialogue.Path.refl d'⟩
  | @cut s s' rest j d d'' q a hd path served =>
    by_cases hi : i = j
    · subst hi
      simp at hd'
    · have hrest : rest i = some d' := by simpa [hi] using hd'
      exact ⟨d', hrest, .refl d'⟩
  | outside s s' rest => exact ⟨d', hd', .refl d'⟩

end Scene

/-- The happenings that lead from one scene to another. -/
inductive Run (c : Scene ι) : List (Happening ι) → Scene ι → Prop where
  | start : Run c [] c
  | step {hs : List (Happening ι)} {act : Act ι} {c' c'' : Scene ι} (run : Run c hs c')
      (h : Scene.Step c' act c'') : Run c (hs ++ [⟨act, c'.store, c''.store⟩]) c''

namespace Run

variable {c c' : Scene ι} {hs hs₁ hs₂ : List (Happening ι)} {h h' : Happening ι} {i : ι}

theorem trans {c'' : Scene ι} {hs' : List (Happening ι)} (run : Run c hs c')
    (run' : Run c' hs' c'') : Run c (hs ++ hs') c'' := by
  induction run' with
  | start => rwa [List.append_nil]
  | step run' hstep ih =>
    rw [← List.append_assoc]
    exact ih.step hstep

/-- What a pass heard is a path of its dialogue. -/
theorem path (run : Run c hs c') {d' : Pass} (hd' : c'.rest i = some d') :
    ∃ d, c.rest i = some d ∧ Dialogue.Path d (heard i hs) d' := by
  induction run generalizing d' with
  | start => exact ⟨d', hd', .refl d'⟩
  | step run hstep ih =>
    obtain ⟨d'', hd'', h'⟩ := hstep.path hd'
    obtain ⟨d, hd, h⟩ := ih hd''
    refine ⟨d, hd, ?_⟩
    rw [heard_append, heard_singleton]
    exact h.trans h'

/-- What a pass that is over heard brought it to its result. -/
theorem gives_of_returned {entrant : ι → Entrant} {store : SecretStore}
    (run : Run (Scene.start entrant store) hs c') {x : Except ResolutionError Resolution}
    (hx : c'.Returned i x) : (entrant i).pass.Gives (heard i hs) x := by
  obtain ⟨d', hd', hg⟩ := hx
  obtain ⟨d, hd, hp⟩ := run.path hd'
  obtain rfl := Option.some.inj hd
  have h := hp.trans hg
  rwa [List.append_nil] at h

/-- A run can be parted at each of its happenings. -/
theorem exists_split (run : Run c hs c') (hl : hs = hs₁ ++ h :: hs₂) :
    ∃ c₁ c₂, Run c hs₁ c₁ ∧ Scene.Step c₁ h.act c₂ ∧ h.before = c₁.store ∧
      h.after = c₂.store ∧ Run c₂ hs₂ c' := by
  induction run generalizing hs₂ with
  | start => simp at hl
  | @step hs act c₁ c₂ run hstep ih =>
    rcases List.eq_nil_or_concat hs₂ with rfl | ⟨hs₃, h', rfl⟩
    · obtain ⟨rfl, hh⟩ := List.append_inj' hl rfl
      obtain rfl := List.singleton_inj.mp hh
      exact ⟨c₁, c₂, run, hstep, rfl, rfl, .start⟩
    · rw [List.concat_eq_append, ← List.cons_append, ← List.append_assoc] at hl
      obtain ⟨rfl, hh⟩ := List.append_inj' hl rfl
      obtain rfl := List.singleton_inj.mp hh
      obtain ⟨c₃, c₄, run₁, hstep', hb, ha, run₂⟩ := ih rfl
      rw [List.concat_eq_append]
      exact ⟨c₃, c₄, run₁, hstep', hb, ha, run₂.step hstep⟩

theorem exists_step (run : Run c hs c') (hh : h ∈ hs) : ∃ c₁ c₂, Scene.Step c₁ h.act c₂ ∧
    h.before = c₁.store ∧ h.after = c₂.store := by
  obtain ⟨hs₁, hs₂, hl⟩ := List.append_of_mem hh
  obtain ⟨c₁, c₂, -, hstep, hb, ha, -⟩ := run.exists_split hl
  exact ⟨c₁, c₂, hstep, hb, ha⟩

/-- The store answered, or failed, as a store does. -/
theorem served (run : Run c hs c') (hh : h ∈ hs) {q : StoreCall} {a : q.Answer}
    (hact : h.act = .call i ⟨q, a⟩) : SecretStore.Served h.before q a h.after := by
  obtain ⟨c₁, c₂, hstep, hb, ha⟩ := run.exists_step hh
  rw [hact] at hstep
  rw [hb, ha]
  exact hstep.served

/-- Every call that a pass makes is one that its dialogue asks next, and the store serves it. -/
theorem exists_asks_of_split {entrant : ι → Entrant} {store : SecretStore}
    (run : Run (Scene.start entrant store) hs c') (hl : hs = hs₁ ++ h :: hs₂)
    (hi : h.act.actor? = some i) : ∃ q a, (entrant i).pass.Asks (heard i hs₁ ++ [⟨q, a⟩]) ∧
      SecretStore.Served h.before q a h.after := by
  obtain ⟨c₁, c₂, run₁, hstep, hb, ha, -⟩ := run.exists_split hl
  obtain ⟨d, d', q, a, hd, hp, hserved, -⟩ := hstep.exists_call hi
  obtain ⟨d₀, hd₀, hp₀⟩ := run₁.path hd
  obtain rfl := Option.some.inj hd₀
  exact ⟨q, a, ⟨d', hp₀.trans hp⟩, by rw [hb, ha]; exact hserved⟩

/-! ## Among passes alone -/

theorem grows (run : Run c hs c') (quiet : ∀ h ∈ hs, h.act ≠ .outside) :
    c.store.Grows c'.store := by
  induction run with
  | start => exact .refl _
  | step run hstep ih =>
    have hact := quiet _ (List.mem_append_right _ (List.mem_singleton_self _))
    exact (ih fun h hh => quiet h (List.mem_append_left _ hh)).trans (hstep.grows hact)

/-- What was in the store behind a happening stays there. -/
theorem after_grows (run : Run c hs c') (quiet : ∀ h ∈ hs, h.act ≠ .outside) (hh : h ∈ hs) :
    h.after.Grows c'.store := by
  obtain ⟨hs₁, hs₂, rfl⟩ := List.append_of_mem hh
  obtain ⟨c₁, c₂, -, -, -, ha, run₂⟩ := run.exists_split rfl
  rw [ha]
  exact run₂.grows fun h' hh' => quiet h' (by simp [hh'])

/-- What was in the store behind a happening is there before every later one. -/
theorem after_grows_before (run : Run c hs c') (quiet : ∀ h ∈ hs, h.act ≠ .outside)
    (hl : hs = hs₁ ++ h :: hs₂) (hh' : h' ∈ hs₁) : h'.after.Grows h.before := by
  obtain ⟨c₁, c₂, run₁, -, hb, -, -⟩ := run.exists_split hl
  rw [hb]
  exact run₁.after_grows (fun h'' hh'' => quiet h'' (by simp [hl, hh''])) hh'

/-- A secret is made at most once.  What the earlier of two makes is still there when the later
begins. -/
theorem made_once (run : Run c hs c') (quiet : ∀ h ∈ hs, h.act ≠ .outside)
    (hh : h ∈ hs) (hh' : h' ∈ hs) {space name : String} {fields fields' : SecretFields}
    (new : h.before.get? space name = none) (made : h.after.get? space name = some fields)
    (new' : h'.before.get? space name = none)
    (made' : h'.after.get? space name = some fields') : h = h' := by
  obtain ⟨hs₁, hs₂, rfl⟩ := List.append_of_mem hh
  rcases List.mem_append.mp hh' with hh' | hh'
  · have hkept := run.after_grows_before quiet rfl hh' _ _ _ made'
    exact absurd (new.symm.trans hkept) (Option.some_ne_none _).symm
  · rcases List.mem_cons.mp hh' with rfl | hh'
    · rfl
    · obtain ⟨hs₃, hs₄, rfl⟩ := List.append_of_mem hh'
      have hl : hs₁ ++ h :: (hs₃ ++ h' :: hs₄) = (hs₁ ++ h :: hs₃) ++ h' :: hs₄ := by simp
      have hkept := run.after_grows_before quiet hl (by simp) _ _ _ made
      exact absurd (new'.symm.trans hkept) (Option.some_ne_none _).symm

end Run

end PipelinesOperator
