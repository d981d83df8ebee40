import PipelinesOperator.Proofs.Race.Agreement
import PipelinesOperator.Proofs.Resolution.Fingerprint

/-!
# The hashes of passes over one application

Passes over one application that draw on one registry follow one plan, so what they return differs
in the origins of the credentials alone.  These are part of what is hashed: two passes have one
hash when each credential has one origin for both.  That is never so of a pass that has made a
secret and any other, and in particular not of a first pass and the next one.

## Main results

* `Run.exists_plan_of_returned`: passes over one application follow one plan
* `Run.not_created_of_sameOrigins`: passes with the same origins have made nothing
* `racing_hashes_agree_iff`: when two passes over one application have one hash
-/

namespace PipelinesOperator

open Dialogue

variable {ι : Type} [DecidableEq ι]

namespace Run

variable {entrant : ι → Entrant} {store : SecretStore} {c : Scene ι} {hs : List (Happening ι)}
  {i j : ι} {x y : Resolution}

/-- Passes over one application that draw on one registry follow one plan. -/
theorem exists_plan_of_returned (run : Run (Scene.start entrant store) hs c)
    (happ : (entrant i).application = (entrant j).application)
    (hreg : (entrant i).registry = (entrant j).registry)
    (hx : c.Returned i (.ok x)) (hy : c.Returned j (.ok y)) :
    ∃ (p : Plan) (password keys password' keys' : Credential × Origin),
      x = p.complete password keys ∧ y = p.complete password' keys' := by
  obtain ⟨p, -, -, password, keys, hp, -, -, -, rfl⟩ :=
    Application.resolve_gives_ok_iff.mp (run.gives_of_returned hx)
  obtain ⟨p', -, -, password', keys', hp', -, -, -, rfl⟩ :=
    Application.resolve_gives_ok_iff.mp (run.gives_of_returned hy)
  rw [← happ, ← hreg, hp] at hp'
  obtain rfl := Except.ok.inj hp'
  exact ⟨p, password, keys, password', keys', rfl, rfl⟩

/-- Of two passes with the same origins neither has made a secret: no other one would find it
missing. -/
theorem not_created_of_sameOrigins (run : Run (Scene.start entrant store) hs c)
    (quiet : ∀ h ∈ hs, h.act ≠ .outside) (hij : i ≠ j)
    (happ : (entrant i).application = (entrant j).application)
    (hreg : (entrant i).registry = (entrant j).registry)
    (hx : c.Returned i (.ok x)) (hy : c.Returned j (.ok y)) (hsame : x.SameOrigins y) :
    ∀ g ∈ x.established, g.origin ≠ .created := by
  intro g hg ho
  have hother : ∃ g' ∈ y.established, g.reference = g'.reference ∧ g'.origin = .created := by
    obtain ⟨p, password, keys, password', keys', rfl, rfl⟩ :=
      run.exists_plan_of_returned happ hreg hx hy
    rcases Resolution.mem_established.mp hg with rfl | rfl
    · exact ⟨_, Resolution.mem_established.mpr (.inl rfl), rfl, hsame.password ▸ ho⟩
    · exact ⟨_, Resolution.mem_established.mpr (.inr rfl), rfl, hsame.keys ▸ ho⟩
  obtain ⟨g', hg', href, ho'⟩ := hother
  exact hij (run.actor_unique_of_created quiet hx hy hg hg' (by rw [href]) (by rw [href]) ho ho')

end Run

/-- Two passes over one application have one hash exactly when both credentials have the same
origins for both, unless the digest of their two different texts is the same; and the status of
the one tells the verdict of the other only if their hashes are one.  Distinct passes with the same
origins have stored no secret, so a pass that has stored one shares its text with no other. -/
theorem racing_hashes_agree_iff (entrant : ι → Entrant) (store : SecretStore) {c : Scene ι}
    {hs : List (Happening ι)} (run : Run (Scene.start entrant store) hs c)
    (quiet : ∀ h ∈ hs, h.act ≠ .outside) {i j : ι}
    (happ : (entrant i).application = (entrant j).application)
    (hreg : (entrant i).registry = (entrant j).registry) {x y : Resolution}
    (hx : c.Returned i (.ok x)) (hy : c.Returned j (.ok y)) :
    (x.parameters.hash = y.parameters.hash ↔ x.SameOrigins y ∨
      Blake3.Collide x.parameters.canonicalText y.parameters.canonicalText) ∧
    (x.parameters.canonicalText = y.parameters.canonicalText ↔ x.SameOrigins y) ∧
    (∀ since now, ((Verdict.resolved x.parameters.hash).status since now).tells
      (.resolved y.parameters.hash) ↔ x.parameters.hash = y.parameters.hash) ∧
    (i ≠ j → x.SameOrigins y →
      x.parameters.createdSecrets = [] ∧ y.parameters.createdSecrets = []) := by
  refine ⟨?_, ?_, fun since now => Verdict.tells_status_iff _ _ since now, ?_⟩
  · obtain ⟨p, password, keys, password', keys', rfl, rfl⟩ :=
      run.exists_plan_of_returned happ hreg hx hy
    exact p.hash_complete password keys password' keys'
  · obtain ⟨p, password, keys, password', keys', rfl, rfl⟩ :=
      run.exists_plan_of_returned happ hreg hx hy
    exact p.canonicalText_complete password keys password' keys'
  · intro hij hsame
    rw [Resolution.createdSecrets_eq_nil_iff, Resolution.createdSecrets_eq_nil_iff]
    refine ⟨run.not_created_of_sameOrigins quiet hij happ hreg hx hy hsame, ?_⟩
    have hsame' : y.SameOrigins x := ⟨hsame.password.symm, hsame.keys.symm⟩
    exact run.not_created_of_sameOrigins quiet hij.symm happ.symm hreg.symm hy hx hsame'

/-- Three passes over one application, each with material of its own. -/
def trio (i : Fin 3) : Entrant := .plain i

/-- The three passes one after the other: the first makes both secrets, the others read them. -/
def inTurn : List (Happening (Fin 3)) × Scene (Fin 3) :=
  (Scene.start trio ⟨[]⟩).play [0, 0, 0, 0, 1, 1, 2, 2]

theorem origins_inTurn : (inTurn.2.resolved? 0).map (·.established.map Established.origin) =
      some [.created, .created] ∧
    (inTurn.2.resolved? 1).map (·.established.map Established.origin) =
      some [.existing, .existing] ∧
    (inTurn.2.resolved? 2).map (·.established.map Established.origin) =
      some [.existing, .existing] := by
  decide +kernel

/-- The second pass and the third have one hash. -/
theorem racing_hashes_agree_iff_inTurn :
    Run (Scene.start trio ⟨[]⟩) inTurn.1 inTurn.2 ∧ (∀ h ∈ inTurn.1, h.act ≠ .outside) ∧
    (trio 1).application = (trio 2).application ∧ (trio 1).registry = (trio 2).registry ∧
    ∃ x y, inTurn.2.Returned 1 (.ok x) ∧ inTurn.2.Returned 2 (.ok y) ∧
      x.parameters.hash = y.parameters.hash ∧ x.parameters.createdSecrets = [] := by
  have run : Run (Scene.start trio ⟨[]⟩) inTurn.1 inTurn.2 := run_play _ _
  have quiet : ∀ h ∈ inTurn.1, h.act ≠ .outside := play_quiet _ _
  obtain ⟨-, hx, hy⟩ := origins_inTurn
  obtain ⟨x, hx, hgx⟩ := Option.map_eq_some_iff.mp hx
  obtain ⟨y, hy, hgy⟩ := Option.map_eq_some_iff.mp hy
  replace hx := Scene.returned_of_resolved? hx
  replace hy := Scene.returned_of_resolved? hy
  have hsame : x.SameOrigins y := by
    simp only [Resolution.established, List.map_cons, List.map_nil, List.cons.injEq] at hgx hgy
    exact ⟨hgx.1.trans hgy.1.symm, hgx.2.1.trans hgy.2.1.symm⟩
  obtain ⟨hhash, -, -, hmade⟩ :=
    racing_hashes_agree_iff trio ⟨[]⟩ run quiet (i := 1) (j := 2) rfl rfl hx hy
  exact ⟨run, quiet, rfl, rfl, x, y, hx, hy, hhash.mpr (.inl hsame), (hmade (by decide) hsame).1⟩

/-- The first pass and the second have two texts, and so one hash only by a collision of these. -/
theorem texts_differ_inTurn :
    Run (Scene.start trio ⟨[]⟩) inTurn.1 inTurn.2 ∧ (∀ h ∈ inTurn.1, h.act ≠ .outside) ∧
    (trio 0).application = (trio 1).application ∧ (trio 0).registry = (trio 1).registry ∧
    ∃ x y, inTurn.2.Returned 0 (.ok x) ∧ inTurn.2.Returned 1 (.ok y) ∧
      x.parameters.canonicalText ≠ y.parameters.canonicalText ∧
      (x.parameters.hash = y.parameters.hash ↔
        Blake3.Collide x.parameters.canonicalText y.parameters.canonicalText) := by
  have run : Run (Scene.start trio ⟨[]⟩) inTurn.1 inTurn.2 := run_play _ _
  have quiet : ∀ h ∈ inTurn.1, h.act ≠ .outside := play_quiet _ _
  obtain ⟨hx, hy, -⟩ := origins_inTurn
  obtain ⟨x, hx, hgx⟩ := Option.map_eq_some_iff.mp hx
  obtain ⟨y, hy, hgy⟩ := Option.map_eq_some_iff.mp hy
  replace hx := Scene.returned_of_resolved? hx
  replace hy := Scene.returned_of_resolved? hy
  refine ⟨run, quiet, rfl, rfl, x, y, hx, hy, ?_⟩
  obtain ⟨p, password, keys, password', keys', rfl, rfl⟩ :=
    run.exists_plan_of_returned (i := 0) (j := 1) rfl rfl hx hy
  have hnot : ¬(p.complete password keys).SameOrigins (p.complete password' keys') := by
    rintro ⟨hpassword, -⟩
    simp only [Resolution.established, List.map_cons, List.map_nil, List.cons.injEq] at hgx hgy
    exact absurd (hgx.1.symm.trans (hpassword.trans hgy.1)) (by decide)
  rw [p.hash_complete, ne_eq, p.canonicalText_complete]
  exact ⟨hnot, or_iff_right hnot⟩

end PipelinesOperator
